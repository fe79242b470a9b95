import NotebookGrading.Proofs.Notebook.LimitedStreams

/-
  When a limit on lines leaves its marker.

  The marker is the last line of a stream that is cut in the
  middle. If the streams use up the limit just where one of
  them ends, no stream is cut, and those that follow are
  dropped without a mark. So the streams that lost lines end
  in the marker except where outputs at the beginning have
  just as many lines as are allowed.

  Key definitions include:
    * `Output.FillsUp`
    * `Output.LosesLines`
    * `Output.EndsInMarker`

  Main statements:
    * `Output.losesLines_limitStreams_iff`
    * `Output.endsInMarker_limitStreams_iff`
    * `Notebook.endsInMarker_limitOutput_iff`
-/

namespace NotebookGrading

namespace Output

variable {maxLines : Nat}
variable {long : Output}
variable {outputs front rest before after : List Output}

------------------------------------------------------------
-- Lost Lines And Their Marker
------------------------------------------------------------

/- The outputs at the beginning have just so many lines. -/
def FillsUp
    (maxLines : Nat)
    (outputs : List Output) : Prop :=
  ∃ front rest,
    outputs = front ++ rest ∧
      (streamLines front).length = maxLines

/- Not every line of the streams is still there. -/
def LosesLines
    (before after : List Output) : Prop :=
  ¬ (streamLines before).Sublist (streamLines after)

/- The last line of the last stream is the marker. -/
def EndsInMarker
    (outputs : List Output) : Prop :=
  ∃ last,
    (outputs.filter isStream).getLast? = some last ∧
      (Text.lines (last.text.getD "")).getLast? =
        some outputTruncated

/- The last stream has the last line, since none is empty. -/
theorem endsInMarker_iff :
    EndsInMarker outputs ↔
      (streamLines outputs).getLast? =
        some outputTruncated := by
  unfold EndsInMarker streamLines
  rcases List.eq_nil_or_concat (outputs.filter isStream) with
    hNone | ⟨others, last, hLast⟩
  · simp [hNone]
  · have hLines := Text.lines_ne_nil (last.text.getD "")
    rw [hLast]
    simp [List.getLast?_append_of_ne_nil _ hLines]

------------------------------------------------------------
-- Limited Streams
------------------------------------------------------------

/- Lines are lost just when there are too many. -/
theorem losesLines_limitStreams_iff :
    LosesLines outputs (limitStreams maxLines 0 outputs) ↔
      maxLines < (streamLines outputs).length := by
  have hLimited := isLimitedTo_limitStreams maxLines outputs
  constructor
  · intro hLoses
    by_contra hNot
    have hSame :=
      (hLimited.unchanged (Nat.le_of_not_lt hNot)).2
    apply hLoses
    rw [hSame]
  · intro hLong hSublist
    have hLength := hSublist.length_le
    have hAtMost := hLimited.atMost
    omega

/- At the stream that exceeds, it shows if the limit fits. -/
theorem Exceeds.fillsUp_iff
    (h : Exceeds maxLines front long)
    (rest : List Output) :
    FillsUp maxLines (front ++ long :: rest) ↔
      (streamLines front).length = maxLines := by
  have hFits := h.fits
  have hExceeds := h.exceeds
  constructor
  · rintro ⟨start, others, hEq, hCount⟩
    rcases List.append_eq_append_iff.1 hEq with
      ⟨gap, rfl, hGap⟩ | ⟨gap, rfl, -⟩
    · cases gap with
      | nil => simpa using hCount
      | cons next more =>
          rw [List.cons_append] at hGap
          obtain ⟨rfl, -⟩ := List.cons.inj hGap
          rw [streamLines_append, streamLines_cons,
            List.length_append, List.length_append] at hCount
          omega
    · rw [streamLines_append, List.length_append] at hFits ⊢
      omega
  · exact fun hCount => ⟨front, long :: rest, rfl, hCount⟩

/- Without a cut the first lines remain, and no others. -/
theorem streamLines_limitStreams_of_fillsUp
    (h : FillsUp maxLines outputs) :
    streamLines (limitStreams maxLines 0 outputs) =
      (streamLines outputs).take maxLines := by
  rcases h with ⟨front, rest, rfl, hCount⟩
  have hUsed :
      maxLines ≤ 0 + (streamLines front).length := by
    omega
  rw [limitStreams_append 0 (by omega),
    limitStreams_of_le hUsed, streamLines_append,
    streamLines_map_withText, streamLines_filter,
    streamLines_append, ← hCount, List.take_left,
    List.append_nil]

/-
  Where lines are lost, the marker is missing just if the
  limit was used up at the end of a stream, and the last
  line that was allowed is not the marker by itself.
-/
theorem endsInMarker_limitStreams_iff
    (hPos : 1 ≤ maxLines)
    (hLong : maxLines < (streamLines outputs).length) :
    EndsInMarker (limitStreams maxLines 0 outputs) ↔
      ¬ FillsUp maxLines outputs ∨
        (streamLines outputs)[maxLines - 1]? =
          some outputTruncated := by
  rw [endsInMarker_iff]
  by_cases hFills : FillsUp maxLines outputs
  · rw [streamLines_limitStreams_of_fillsUp hFills,
      List.getLast?_eq_getElem?, List.length_take,
      Nat.min_eq_left (Nat.le_of_lt hLong),
      List.getElem?_take_of_lt (by omega)]
    simp [hFills]
  · rcases exists_exceeds hLong with
      ⟨front, long, rest, rfl, hExceeds⟩
    have hFits := hExceeds.fits
    rw [hExceeds.fillsUp_iff] at hFills
    have hLeft :
        maxLines - (streamLines front).length ≠ 0 := by
      omega
    rw [streamLines_limitStreams hExceeds, if_neg hLeft,
      ← List.append_assoc, List.getLast?_concat,
      hExceeds.fillsUp_iff]
    simp [hFills]

------------------------------------------------------------
-- Both Limits
------------------------------------------------------------

/- Shortened tracebacks leave the streams. -/
theorem filter_isStream_limitTracebacks
    (limits : OutputLimits)
    (outputs : List Output) :
    (limits.limitTracebacks outputs).filter isStream =
      outputs.filter isStream := by
  unfold OutputLimits.limitTracebacks
  cases limits.maxTraceback with
  | none => rfl
  | some maxTraceback =>
      induction outputs with
      | nil => rfl
      | cons output rest ih =>
          by_cases hError : output.outputType = .error
          · simpa [shortenTraceback, isStream, hError]
              using ih
          · have hSame :
                shortenTraceback maxTraceback output =
                  output :=
              if_neg hError
            simp only [List.map_cons, hSame,
              List.filter_cons] at ih ⊢
            rw [ih]

end Output

theorem OutputLimits.apply_nil
    (limits : OutputLimits) :
    limits.apply [] = [] := by
  unfold apply limitLines limitTracebacks
  cases limits.maxLines <;>
    cases limits.maxTraceback <;> rfl

/- The outputs of a code cell are those within the limits. -/
theorem Cell.outputList_limitOutput
    {cell : Cell}
    (hCode : cell.cellType = .code)
    (limits : OutputLimits) :
    (cell.limitOutput limits).outputList =
      limits.apply cell.outputList := by
  rw [limitOutput, if_pos hCode]
  unfold outputList
  cases cell.outputs with
  | none => exact limits.apply_nil.symm
  | some outputs => rfl

/-
  A limit of at least one line on the streams of a code
  cell. Lines are lost just when there are more. Then the
  last line of the last stream is the marker, except where
  outputs at the beginning have just as many lines as are
  allowed: of these no line is lost, none of those behind
  remains, and the marker is there only if it was before.
-/
theorem Notebook.endsInMarker_limitOutput_iff
    {notebook : Notebook}
    {limits : OutputLimits}
    {maxLines i : Nat}
    {cell limited : Cell}
    (hLimit : limits.maxLines = some maxLines)
    (hPos : 1 ≤ maxLines)
    (hCell : notebook.cells[i]? = some cell)
    (hCode : cell.cellType = .code)
    (hLimited :
      (notebook.limitOutput limits).cells[i]? =
        some limited) :
    let before := cell.outputList
    let after := limited.outputList
    (Output.LosesLines before after ↔
      maxLines < (Output.streamLines before).length) ∧
      (Output.LosesLines before after →
        (Output.EndsInMarker after ↔
          ¬ Output.FillsUp maxLines before ∨
            (Output.streamLines before)[maxLines - 1]? =
              some outputTruncated)) ∧
      (Output.FillsUp maxLines before →
        Output.streamLines after =
          (Output.streamLines before).take maxLines) := by
  intro before after
  have hStreams :
      after.filter Output.isStream =
        (Output.limitStreams maxLines 0 before).filter
          Output.isStream := by
    rw [getElem?_limitOutput, hCell, Option.map_some] at hLimited
    have hAfter :
        after =
          limits.limitTracebacks
            (Output.limitStreams maxLines 0 before) := by
      simp only [after, ← Option.some.inj hLimited,
        Cell.outputList_limitOutput hCode,
        OutputLimits.apply, OutputLimits.limitLines,
        hLimit, before]
    rw [hAfter, Output.filter_isStream_limitTracebacks]
  have hLines :
      Output.streamLines after =
        Output.streamLines
          (Output.limitStreams maxLines 0 before) := by
    simp only [Output.streamLines, hStreams]
  have hLoses :
      Output.LosesLines before after ↔
        maxLines < (Output.streamLines before).length := by
    rw [← Output.losesLines_limitStreams_iff,
      Output.LosesLines, Output.LosesLines, hLines]
  refine ⟨hLoses, ?_, ?_⟩
  · intro hLost
    rw [← Output.endsInMarker_limitStreams_iff hPos
      (hLoses.1 hLost), Output.EndsInMarker,
      Output.EndsInMarker, hStreams]
  · intro hFills
    rw [hLines]
    exact Output.streamLines_limitStreams_of_fillsUp hFills

/- A code cell with texts on its standard output. -/
def Cell.printing
    (texts : List String) : Cell :=
  (Cell.code "").withOutputs
    (texts.map (Output.stream "stdout"))

/- A stream that is cut in the middle ends in the marker. -/
theorem Notebook.endsInMarker_limitOutput_cut :
    let notebook := Notebook.ofCells [Cell.printing ["a\nb"]]
    let limits : OutputLimits := { maxLines := some 1 }
    ∃ limited,
      (notebook.limitOutput limits).cells[0]? =
        some limited ∧
      Output.EndsInMarker limited.outputList := by
  intro notebook limits
  have hCell :
      notebook.cells[0]? = some (Cell.printing ["a\nb"]) :=
    rfl
  have hLimit : limits.maxLines = some 1 :=
    rfl
  have hExceeds :
      Output.Exceeds 1 [] (Output.stream "stdout" "a\nb") :=
    ⟨rfl, by decide, by decide⟩
  have hNotFilled :
      ¬ Output.FillsUp 1
        [Output.stream "stdout" "a\nb"] := by
    intro hFills
    have hCount := (hExceeds.fillsUp_iff []).1 hFills
    cases hCount
  have hLimited :
      (notebook.limitOutput limits).cells[0]? =
        some ((Cell.printing ["a\nb"]).limitOutput limits) :=
    rfl
  rcases
    endsInMarker_limitOutput_iff hLimit (by decide) hCell rfl
      hLimited
    with ⟨hLoses, hMarked, -⟩
  exact
    ⟨_, hLimited, (hMarked (hLoses.2 (by decide))).2
      (.inl hNotFilled)⟩

/-
  A stream that is dropped behind one that uses up the limit
  leaves no marker.
-/
theorem Notebook.not_endsInMarker_limitOutput_dropped :
    let cell := Cell.printing ["a\nb", "c"]
    let notebook := Notebook.ofCells [cell]
    let limits : OutputLimits := { maxLines := some 2 }
    ∃ limited,
      (notebook.limitOutput limits).cells[0]? =
        some limited ∧
      Output.LosesLines cell.outputList
        limited.outputList ∧
      ¬ Output.EndsInMarker limited.outputList := by
  intro cell notebook limits
  have hBefore :
      Output.streamLines cell.outputList =
        ["a", "b", "c"] := by
    decide
  have hAfter :
      Output.streamLines
          (cell.limitOutput limits).outputList =
        ["a", "b"] := by
    decide
  refine ⟨cell.limitOutput limits, rfl, ?_, ?_⟩
  · rw [Output.LosesLines, hBefore, hAfter]
    decide
  · rw [Output.endsInMarker_iff, hAfter]
    decide

end NotebookGrading
