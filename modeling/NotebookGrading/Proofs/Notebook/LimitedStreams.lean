import NotebookGrading.Proofs.Notebook.SettledCells

/-
  What a limit on lines leaves of the streams of a cell.

  Outputs whose streams fit into the limit stay, except that
  a missing text becomes an empty text. At the first stream
  that goes beyond the limit the lines that are left are
  filled up, the last of them with the marker, and behind
  it no stream remains. So every row of outputs has one of
  two shapes, and what a limit does to both is all that the
  statements about lines need.

  Key definitions include:
    * `Output.withText`
    * `Output.Exceeds`
    * `Output.cutTo`
    * `Output.ReducesStreams`
    * `Output.IsLimitedTo`
    * `Output.limitStreams?`

  Main statements:
    * `Output.limitStreams_append`
    * `Output.exists_exceeds`
    * `Output.limitStreams_of_exceeds`
    * `Output.isLimitedTo_limitStreams`
    * `Output.limitStreams?_eq_some`
    * `Notebook.limitOutput_lines`
-/

namespace NotebookGrading

namespace Output

variable {maxLines : Nat}
variable {output long : Output}
variable {front rest before after : List Output}

------------------------------------------------------------
-- Lines Of Streams
------------------------------------------------------------

theorem streamLines_append
    (front rest : List Output) :
    streamLines (front ++ rest) =
      streamLines front ++ streamLines rest := by
  simp [streamLines]

theorem streamLines_cons
    (output : Output)
    (rest : List Output) :
    streamLines (output :: rest) =
      streamLines [output] ++ streamLines rest :=
  streamLines_append [output] rest

theorem streamLines_singleton
    (h : output.isStream) :
    streamLines [output] =
      Text.lines (output.text.getD "") := by
  simp [streamLines, h]

/- Other outputs have no lines. -/
theorem streamLines_singleton_of_not
    (h : output.isStream = false) :
    streamLines [output] = [] := by
  simp [streamLines, h]

/- Every stream has a line, if only an empty one. -/
theorem length_streamLines_pos
    (h : output.isStream) :
    0 < (streamLines [output]).length := by
  rw [streamLines_singleton h]
  exact List.length_pos_of_ne_nil (Text.lines_ne_nil _)

/- Where no stream remains there are no lines. -/
theorem streamLines_filter
    (outputs : List Output) :
    streamLines
        (outputs.filter (fun output => !output.isStream)) =
      [] := by
  simp [streamLines, List.filter_filter]

------------------------------------------------------------
-- Streams That Fit
------------------------------------------------------------

/- An output in which a missing text is an empty text. -/
def withText
    (output : Output) : Output :=
  if output.isStream then
    { output with text := some (output.text.getD "") }
  else
    output

@[simp] theorem isStream_withText
    (output : Output) :
    output.withText.isStream = output.isStream := by
  unfold withText
  split
  · rfl
  · rfl

@[simp] theorem text_withText
    (h : output.isStream) :
    output.withText.text = some (output.text.getD "") := by
  rw [withText, if_pos h]

theorem streamLines_map_withText
    (outputs : List Output) :
    streamLines (outputs.map withText) =
      streamLines outputs := by
  induction outputs with
  | nil => rfl
  | cons output rest ih =>
      rw [List.map_cons, streamLines_cons, ih,
        streamLines_cons output]
      congr 1
      cases hStream : output.isStream with
      | true => simp [streamLines_singleton, hStream]
      | false => simp [streamLines_singleton_of_not, hStream]

/- Outputs that fit leave the limit to those behind them. -/
theorem limitStreams_append
    (used : Nat)
    (hFits : used + (streamLines front).length ≤ maxLines)
    (rest : List Output) :
    limitStreams maxLines used (front ++ rest) =
      front.map withText ++
        limitStreams maxLines
          (used + (streamLines front).length) rest := by
  induction front generalizing used with
  | nil => simp [streamLines]
  | cons output others ih =>
      rw [streamLines_cons, List.length_append,
        ← Nat.add_assoc] at hFits ⊢
      rw [List.cons_append, limitStreams, List.map_cons,
        List.cons_append]
      cases hStream : output.isStream with
      | true =>
          have hType : output.outputType = .stream := by
            simpa [isStream] using hStream
          have hPos := length_streamLines_pos hStream
          rw [streamLines_singleton hStream] at hFits hPos ⊢
          have hLeft : ¬ maxLines ≤ used := by
            omega
          have hKept :
              ¬ maxLines - used <
                (Text.lines
                  (output.text.getD "")).length := by
            omega
          simp only [if_pos hType, if_neg hLeft, keptLines,
            if_neg hKept, Text.ofLines_lines]
          rw [ih _ hFits]
          simp [withText, hStream]
      | false =>
          have hType : output.outputType ≠ .stream := by
            simpa [isStream] using hStream
          rw [streamLines_singleton_of_not hStream,
            List.length_nil, Nat.add_zero] at hFits ⊢
          rw [if_neg hType, ih used hFits]
          simp [withText, hStream]

/- Outputs that all fit keep all their lines. -/
theorem limitStreams_of_fits
    (hFits : (streamLines before).length ≤ maxLines) :
    limitStreams maxLines 0 before =
      before.map withText := by
  have hNone : 0 + (streamLines before).length ≤ maxLines := by
    omega
  have hAll := limitStreams_append 0 hNone []
  simpa [limitStreams] using hAll

------------------------------------------------------------
-- The First Stream That Does Not Fit
------------------------------------------------------------

/-
  A stream goes beyond the limit, while the outputs in front
  of it fit.
-/
structure Exceeds
    (maxLines : Nat)
    (front : List Output)
    (long : Output) : Prop where
  isStream : long.isStream
  fits : (streamLines front).length ≤ maxLines
  exceeds :
    maxLines <
      (streamLines front).length + (streamLines [long]).length

/- Too many lines go beyond the limit in one stream. -/
theorem exists_exceeds
    {outputs : List Output}
    (hLong : maxLines < (streamLines outputs).length) :
    ∃ front long rest,
      outputs = front ++ long :: rest ∧
      Exceeds maxLines front long := by
  induction outputs generalizing maxLines with
  | nil => simp [streamLines] at hLong
  | cons output others ih =>
      rw [streamLines_cons, List.length_append] at hLong
      by_cases hOwn :
          maxLines < (streamLines [output]).length
      · refine ⟨[], output, others, rfl, ?_, ?_, ?_⟩
        · by_contra hNot
          rw [streamLines_singleton_of_not (by simpa using hNot)]
            at hOwn
          simp at hOwn
        · simp [streamLines]
        · simpa [streamLines] using hOwn
      · have hOthers :
            maxLines - (streamLines [output]).length <
              (streamLines others).length := by
          omega
        rcases ih hOthers with
          ⟨front, long, rest, hEq, hStream, hFits, hExceeds⟩
        refine
          ⟨output :: front, long, rest, by rw [hEq]; rfl,
            hStream, ?_, ?_⟩
        · rw [streamLines_cons, List.length_append]
          omega
        · rw [streamLines_cons, List.length_append]
          omega

/- What remains of a stream for some lines that are left. -/
def cutTo
    (left : Nat)
    (long : Output) : List Output :=
  if left = 0 then
    []
  else
    [{ long with
        text :=
          some
            (Text.ofLines
              (keptLines left
                (Text.lines (long.text.getD "")))) }]

/- Behind the stream that goes beyond, no stream remains. -/
theorem limitStreams_of_exceeds
    (h : Exceeds maxLines front long)
    (rest : List Output) :
    limitStreams maxLines 0 (front ++ long :: rest) =
      front.map withText ++
        cutTo (maxLines - (streamLines front).length) long ++
          rest.filter (fun output => !output.isStream) := by
  have hFits := h.fits
  have hExceeds := h.exceeds
  have hType : long.outputType = .stream := by
    simpa [isStream] using h.isStream
  rw [streamLines_singleton h.isStream] at hExceeds
  rw [limitStreams_append 0 (by omega), List.append_assoc,
    Nat.zero_add]
  congr 1
  by_cases hFull : maxLines ≤ (streamLines front).length
  · have hLeft :
        maxLines - (streamLines front).length = 0 := by
      omega
    rw [limitStreams_of_le hFull, cutTo, if_pos hLeft]
    simp [h.isStream]
  · have hLeft :
        maxLines - (streamLines front).length ≠ 0 := by
      omega
    have hUsed :=
      length_keptLines (Nat.pos_of_ne_zero hLeft)
        (Text.lines (long.text.getD ""))
    rw [limitStreams, if_pos hType, if_neg hFull, cutTo,
      if_neg hLeft]
    simp only
    rw [limitStreams_of_le (by omega)]
    rfl

theorem streamLines_cutTo
    {left : Nat}
    (hStream : long.isStream)
    (hLong : left < (streamLines [long]).length) :
    streamLines (cutTo left long) =
      if left = 0 then
        []
      else
        (streamLines [long]).take (left - 1) ++
          [outputTruncated] := by
  unfold cutTo
  split
  · rfl
  · rw [streamLines_singleton hStream] at hLong ⊢
    rw [streamLines_singleton (by exact hStream),
      Option.getD_some, lines_ofLines_keptLines, keptLines,
      if_pos hLong]

/- The lines that remain when a stream goes beyond. -/
theorem streamLines_limitStreams
    (h : Exceeds maxLines front long)
    (rest : List Output) :
    streamLines
        (limitStreams maxLines 0 (front ++ long :: rest)) =
      streamLines front ++
        if maxLines - (streamLines front).length = 0 then
          []
        else
          (streamLines [long]).take
              (maxLines - (streamLines front).length - 1) ++
            [outputTruncated] := by
  have hLong :
      maxLines - (streamLines front).length <
        (streamLines [long]).length := by
    have hFits := h.fits
    have hExceeds := h.exceeds
    omega
  rw [limitStreams_of_exceeds h, streamLines_append,
    streamLines_append, streamLines_map_withText,
    streamLines_filter, List.append_nil,
    streamLines_cutTo h.isStream hLong]

------------------------------------------------------------
-- Everything But The Streams
------------------------------------------------------------

/-
  Streams are dropped or get another text; all other outputs
  stay as they are, and what stays keeps its order.
-/
inductive ReducesStreams :
    List Output → List Output → Prop
  | nil : ReducesStreams [] []
  | other {output : Output} {before after : List Output} :
      output.isStream = false →
        ReducesStreams before after →
          ReducesStreams (output :: before)
            (output :: after)
  | rewritten {output : Output}
      {before after : List Output} (text : String) :
      output.isStream →
        ReducesStreams before after →
          ReducesStreams (output :: before)
            ({ output with text := some text } :: after)
  | dropped {output : Output} {before after : List Output} :
      output.isStream →
        ReducesStreams before after →
          ReducesStreams (output :: before) after

theorem reducesStreams_limitStreams
    (maxLines used : Nat)
    (outputs : List Output) :
    ReducesStreams outputs
      (limitStreams maxLines used outputs) := by
  induction outputs generalizing used with
  | nil => exact .nil
  | cons output rest ih =>
      by_cases hType : output.outputType = .stream
      · have hStream : output.isStream := by
          simp [isStream, hType]
        rw [limitStreams, if_pos hType]
        split
        · exact .dropped hStream (ih used)
        · exact .rewritten _ hStream (ih _)
      · have hStream : output.isStream = false := by
          simpa [isStream] using hType
        rw [limitStreams, if_neg hType]
        exact .other hStream (ih used)

theorem ReducesStreams.filter_eq
    (h : ReducesStreams before after) :
    after.filter (fun output => !output.isStream) =
      before.filter (fun output => !output.isStream) := by
  induction h with
  | nil => rfl
  | other hOther _ ih => simp [hOther, ih]
  | @rewritten output _ _ text hStream _ ih =>
      have hStill :
          ({ output with text := some text } :
            Output).isStream :=
        hStream
      simp [hStream, hStill, ih]
  | dropped hStream _ ih => simp [hStream, ih]

------------------------------------------------------------
-- Limited Lines
------------------------------------------------------------

/-
  What a limit on lines makes of outputs: no more lines than
  that, which begin as before and may end in the marker, all
  other outputs as they were, and no change to the lines if
  they fit.
-/
structure IsLimitedTo
    (maxLines : Nat)
    (before after : List Output) : Prop where
  atMost : (streamLines after).length ≤ maxLines
  beginning :
    ∃ start,
      start <+: streamLines before ∧
        (streamLines after = start ∨
          streamLines after = start ++ [outputTruncated])
  streams : ReducesStreams before after
  others :
    after.filter (fun output => !output.isStream) =
      before.filter (fun output => !output.isStream)
  unchanged :
    (streamLines before).length ≤ maxLines →
      after = before.map withText ∧
        streamLines after = streamLines before

theorem isLimitedTo_limitStreams
    (maxLines : Nat)
    (outputs : List Output) :
    IsLimitedTo maxLines outputs
      (limitStreams maxLines 0 outputs) := by
  have hStreams :=
    reducesStreams_limitStreams maxLines 0 outputs
  by_cases hFits : (streamLines outputs).length ≤ maxLines
  · have hKept := limitStreams_of_fits hFits
    have hLines :
        streamLines (limitStreams maxLines 0 outputs) =
          streamLines outputs := by
      rw [hKept, streamLines_map_withText]
    exact
      { atMost := by rw [hLines]; exact hFits
        beginning :=
          ⟨streamLines outputs, List.prefix_rfl, .inl hLines⟩
        streams := hStreams
        others := hStreams.filter_eq
        unchanged := fun _ => ⟨hKept, hLines⟩ }
  · rcases exists_exceeds (Nat.lt_of_not_le hFits) with
      ⟨front, long, rest, rfl, hExceeds⟩
    have hFront := hExceeds.fits
    have hOver := hExceeds.exceeds
    have hLines := streamLines_limitStreams hExceeds rest
    have hBefore :
        streamLines (front ++ long :: rest) =
          streamLines front ++
            (streamLines [long] ++ streamLines rest) := by
      rw [streamLines_append, streamLines_cons]
    refine ⟨?_, ?_, hStreams, hStreams.filter_eq, ?_⟩
    · rw [hLines]
      split
      · simpa using hFront
      · simp only [List.length_append, List.length_take,
          List.length_singleton]
        omega
    · rw [hBefore, hLines]
      split
      · exact
          ⟨streamLines front, List.prefix_append _ _,
            .inl (List.append_nil _)⟩
      · refine ⟨_, ?_, .inr (List.append_assoc ..).symm⟩
        rw [List.prefix_append_right_inj]
        exact
          (List.take_prefix _ _).trans
            (List.prefix_append _ _)
    · exact fun hShort => absurd hShort hFits

------------------------------------------------------------
-- Subtractions
------------------------------------------------------------

/- The difference of two numbers that is not below zero. -/
def difference?
    (larger smaller : Nat) : Option Nat :=
  if smaller ≤ larger then
    some (larger - smaller)
  else
    none

/- The lines of a stream, if no subtraction fails. -/
def keptLines?
    (left : Nat)
    (lines : List String) : Option (List String) :=
  if left < lines.length then
    (difference? left 1).map
      (fun count => lines.take count ++ [outputTruncated])
  else
    some lines

/- The outputs that remain, if no subtraction fails. -/
def limitStreams?
    (maxLines : Nat) :
    Nat → List Output → Option (List Output)
  | _, [] => some []
  | used, output :: rest =>
      if output.outputType = .stream then
        if maxLines ≤ used then
          limitStreams? maxLines used rest
        else do
          let left ← difference? maxLines used
          let lines ←
            keptLines? left
              (Text.lines (output.text.getD ""))
          let others ←
            limitStreams? maxLines (used + lines.length) rest
          some
            ({ output with
                text := some (Text.ofLines lines) } ::
              others)
      else
        (limitStreams? maxLines used rest).map
          (fun others => output :: others)

theorem keptLines?_eq_some
    {left : Nat}
    (hLeft : 0 < left)
    (lines : List String) :
    keptLines? left lines = some (keptLines left lines) := by
  have hOne : difference? left 1 = some (left - 1) :=
    if_pos hLeft
  unfold keptLines? keptLines
  split
  · rw [hOne]
    rfl
  · rfl

/-
  No subtraction goes below zero: lines are taken off the
  limit only where fewer have been used, and then one is
  left for the marker.
-/
theorem limitStreams?_eq_some
    (maxLines used : Nat)
    (outputs : List Output) :
    limitStreams? maxLines used outputs =
      some (limitStreams maxLines used outputs) := by
  induction outputs generalizing used with
  | nil => rfl
  | cons output rest ih =>
      rw [limitStreams?, limitStreams]
      by_cases hType : output.outputType = .stream
      · rw [if_pos hType, if_pos hType]
        by_cases hUsed : maxLines ≤ used
        · rw [if_pos hUsed, if_pos hUsed]
          exact ih used
        · have hLeft :
              difference? maxLines used =
                some (maxLines - used) :=
            if_pos (by omega)
          have hPos : 0 < maxLines - used := by
            omega
          rw [if_neg hUsed, if_neg hUsed, hLeft]
          simp [keptLines?_eq_some hPos, ih]
      · rw [if_neg hType, if_neg hType, ih]
        rfl

end Output

------------------------------------------------------------
-- Notebooks
------------------------------------------------------------

/- Each cell is limited on its own. -/
theorem Notebook.getElem?_limitOutput
    (notebook : Notebook)
    (limits : OutputLimits)
    (i : Nat) :
    (notebook.limitOutput limits).cells[i]? =
      notebook.cells[i]?.map (Cell.limitOutput limits) :=
  List.getElem?_map

/-
  A notebook whose streams are limited to a number of lines.
  Cells that are no code cells stay as they are, and of a
  code cell only the outputs change. Its streams have no
  more lines than that, and they begin as before. No
  subtraction on the way goes below zero.
-/
theorem Notebook.limitOutput_lines
    (notebook : Notebook)
    (maxLines : Nat) :
    let limited :=
      notebook.limitOutput
        { maxLines := some maxLines, maxTraceback := none }
    limited = { notebook with cells := limited.cells } ∧
      limited.cells.length = notebook.cells.length ∧
      (∀ (i : Nat) (cell : Cell),
        notebook.cells[i]? = some cell →
          ∃ kept,
            limited.cells[i]? = some kept ∧
            kept = { cell with outputs := kept.outputs } ∧
            (cell.cellType ≠ .code → kept = cell) ∧
            (cell.outputs = none → kept = cell) ∧
            (cell.cellType = .code →
              ∀ before,
                cell.outputs = some before →
                  ∃ after,
                    kept.outputs = some after ∧
                    Output.IsLimitedTo maxLines before
                      after)) ∧
      ∀ outputs,
        Output.limitStreams? maxLines 0 outputs =
          some (Output.limitStreams maxLines 0 outputs) := by
  intro limited
  refine
    ⟨rfl, List.length_map _, ?_,
      Output.limitStreams?_eq_some maxLines 0⟩
  intro i cell hCell
  refine
    ⟨_, by rw [getElem?_limitOutput, hCell, Option.map_some],
      ?_⟩
  by_cases hCode : cell.cellType = .code
  · rw [Cell.limitOutput, if_pos hCode]
    refine ⟨rfl, fun hNot => absurd hCode hNot, ?_, ?_⟩
    · intro hNone
      simp only [hNone, Option.map_none]
      rw [← hNone]
    · intro _ before hBefore
      refine ⟨_, by rw [hBefore]; rfl, ?_⟩
      exact Output.isLimitedTo_limitStreams maxLines before
  · rw [Cell.limitOutput, if_neg hCode]
    exact
      ⟨rfl, fun _ => rfl, fun _ => rfl,
        fun h => absurd h hCode⟩

end NotebookGrading
