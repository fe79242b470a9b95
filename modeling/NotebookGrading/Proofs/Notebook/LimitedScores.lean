import NotebookGrading.Notebook.OutputLimit
import NotebookGrading.Notebook.Scoring

/-
  Scores of cells with limited outputs.

  A limit on output changes a score in one way only. When
  the first deciding output is stderr text, and the streams
  in front of it have used up all lines, that text is
  dropped with every later stream. The outputs that are no
  streams then decide.

  Key definitions include:
    * `Output.streamLines`
    * `OutputLimits.silences`
    * `Cell.isSilencedBy`

  Main statements:
    * `Output.scoreOfOutputs_limitStreams`
    * `Output.scoreOfOutputs_shortenTraceback`
    * `Notebook.scores_limitOutput`
-/

namespace NotebookGrading

------------------------------------------------------------
-- Streams And Their Lines
------------------------------------------------------------

namespace Output

def isStream
    (output : Output) : Bool :=
  output.outputType = .stream

/- The lines of all streams, in order. -/
def streamLines
    (outputs : List Output) : List String :=
  (outputs.filter isStream).flatMap
    (fun output => Text.lines (output.text.getD ""))

/- The outputs in front of the first that decides. -/
def beforeDeciding
    (outputs : List Output) : List Output :=
  outputs.takeWhile (fun output => !output.isDeciding)

/-
  The first deciding output is a stream, and none of its
  lines is kept when a number of lines has been used up
  before the outputs.
-/
def silenced
    (maxLines used : Nat)
    (outputs : List Output) : Bool :=
  match outputs.find? isDeciding with
  | none => false
  | some output =>
      output.isStream &&
        maxLines ≤
          used + (streamLines (beforeDeciding outputs)).length

/- A stream that decides is stderr text and scores zero. -/
theorem verdict_of_isStream
    {output : Output}
    (h : output.isStream)
    (max : Float) :
    output.verdict max = 0 := by
  have hType : output.outputType = .stream := by
    simpa [isStream] using h
  simp [verdict, hType]

/- What counts is the first deciding output. -/
theorem scoreOfOutputs_cons
    (max : Float)
    (output : Output)
    (rest : List Output) :
    Cell.scoreOfOutputs max (output :: rest) =
      if output.isDeciding then
        output.verdict max
      else
        Cell.scoreOfOutputs max rest := by
  cases hDeciding : output.isDeciding <;>
    simp [Cell.scoreOfOutputs, hDeciding]

/- An output in front that does not decide is passed over. -/
theorem silenced_cons_of_not_isDeciding
    (maxLines used : Nat)
    {output : Output}
    (h : output.isDeciding = false)
    (rest : List Output) :
    silenced maxLines used (output :: rest) =
      silenced maxLines
        (used + (streamLines [output]).length) rest := by
  have hLines :
      (streamLines
        (beforeDeciding (output :: rest))).length =
        (streamLines [output]).length +
          (streamLines (beforeDeciding rest)).length := by
    rw [← List.length_append]
    cases hStream : output.isStream <;>
      simp [streamLines, beforeDeciding, h, hStream]
  unfold silenced
  rw [List.find?_cons, h, hLines, ← Nat.add_assoc]

/- Where lines are left, the next output is not silenced. -/
theorem silenced_cons_of_isDeciding
    {maxLines used : Nat}
    {output : Output}
    (h : output.isDeciding)
    (hKept : output.isStream → used < maxLines)
    (rest : List Output) :
    silenced maxLines used (output :: rest) = false := by
  have hBefore : beforeDeciding (output :: rest) = [] := by
    simp [beforeDeciding, h]
  have hFind :
      (output :: rest).find? isDeciding = some output :=
    List.find?_cons_of_pos h
  unfold silenced
  rw [hFind, hBefore]
  cases hStream : output.isStream with
  | false => simp [hStream]
  | true =>
      have hLt := hKept hStream
      simp [streamLines, hStream]
      omega

/- Without lines left, every deciding stream is silenced. -/
theorem silenced_of_le
    {maxLines used : Nat}
    (h : maxLines ≤ used)
    (outputs : List Output) :
    silenced maxLines used outputs =
      ((outputs.find? isDeciding).map isStream).getD
        false := by
  unfold silenced
  cases outputs.find? isDeciding with
  | none => rfl
  | some output =>
      have hLe :
          maxLines ≤
            used +
              (streamLines
                (beforeDeciding outputs)).length := by
        omega
      simp [hLe]

------------------------------------------------------------
-- Limited Streams
------------------------------------------------------------

/- Without lines left, every stream is dropped. -/
theorem limitStreams_of_le
    {maxLines used : Nat}
    (h : maxLines ≤ used)
    (outputs : List Output) :
    limitStreams maxLines used outputs =
      outputs.filter (fun output => !output.isStream) := by
  induction outputs with
  | nil => rfl
  | cons output rest ih =>
      by_cases hStream : output.outputType = .stream
      · simp [limitStreams, isStream, hStream, h, ih]
      · simp [limitStreams, isStream, hStream, ih]

/-
  Dropping streams counts only if a stream would have
  decided.
-/
theorem scoreOfOutputs_filter
    (max : Float)
    {outputs : List Output}
    (h :
      ((outputs.find? isDeciding).map isStream).getD false =
        false) :
    Cell.scoreOfOutputs max
        (outputs.filter (fun output => !output.isStream)) =
      Cell.scoreOfOutputs max outputs := by
  induction outputs with
  | nil => rfl
  | cons output rest ih =>
      cases hDeciding : output.isDeciding with
      | true =>
          have hStream : output.isStream = false := by
            simpa [List.find?_cons, hDeciding] using h
          simp [hStream, scoreOfOutputs_cons, hDeciding]
      | false =>
          have hRest := ih (by
            simpa [List.find?_cons, hDeciding] using h)
          cases hStream : output.isStream <;>
            simp [hStream, scoreOfOutputs_cons, hDeciding,
              hRest]

/- A stream that is cut uses up all lines that were left. -/
theorem length_keptLines
    {left : Nat}
    (h : 0 < left)
    (lines : List String) :
    (keptLines left lines).length =
      min left lines.length := by
  unfold keptLines
  split
  · rw [List.length_append, List.length_take,
      List.length_singleton]
    omega
  · omega

theorem silenced_min
    (maxLines used lines : Nat)
    (outputs : List Output) :
    silenced maxLines
        (used + min (maxLines - used) lines) outputs =
      silenced maxLines (used + lines) outputs := by
  unfold silenced
  cases outputs.find? isDeciding with
  | none => rfl
  | some output =>
      have hIff (before : Nat) :
          maxLines ≤
              used + min (maxLines - used) lines + before ↔
            maxLines ≤ used + lines + before := by
        omega
      simp only [hIff]

/-
  An output for which lines are left is kept. It decides as
  before, and uses up its lines or all that were left.
-/
theorem exists_kept
    (maxLines used : Nat)
    (output : Output)
    (rest : List Output)
    (hLeft : output.isStream → used < maxLines) :
    ∃ kept next,
      limitStreams maxLines used (output :: rest) =
        kept :: limitStreams maxLines next rest ∧
      kept.isDeciding = output.isDeciding ∧
      (∀ max, kept.verdict max = output.verdict max) ∧
      ∀ outputs,
        silenced maxLines next outputs =
          silenced maxLines
            (used + (streamLines [output]).length)
            outputs := by
  by_cases hType : output.outputType = .stream
  · have hStream : output.isStream := by
      simp [isStream, hType]
    have hLt : used < maxLines := hLeft hStream
    have hNotLe : ¬ maxLines ≤ used := by
      omega
    have hLines :
        streamLines [output] =
          Text.lines (output.text.getD "") := by
      simp [streamLines, hStream]
    rw [limitStreams, if_pos hType, if_neg hNotLe]
    refine ⟨_, _, rfl, rfl, fun _ => ?_, fun outputs => ?_⟩
    · rw [verdict_of_isStream hStream]
      exact verdict_of_isStream hStream _
    · rw [length_keptLines (by omega), silenced_min, hLines]
  · have hStream : output.isStream = false := by
      simpa [isStream] using hType
    rw [limitStreams, if_neg hType]
    refine ⟨_, _, rfl, rfl, fun _ => rfl, fun outputs => ?_⟩
    simp [streamLines, hStream]

/-
  The score of limited streams: unless the deciding output
  is silenced, it is that of all outputs.
-/
theorem scoreOfOutputs_limitStreams
    (max : Float)
    (maxLines used : Nat)
    (outputs : List Output) :
    Cell.scoreOfOutputs max
        (limitStreams maxLines used outputs) =
      Cell.scoreOfOutputs max
        (if silenced maxLines used outputs then
          outputs.filter (fun output => !output.isStream)
        else
          outputs) := by
  induction outputs generalizing used with
  | nil => simp [limitStreams]
  | cons output rest ih =>
      by_cases hLeft : output.isStream → used < maxLines
      · rcases exists_kept maxLines used output rest hLeft
          with ⟨kept, next, hEq, hKept, hVerdict, hNext⟩
        rw [hEq, scoreOfOutputs_cons, hKept, hVerdict]
        cases hDeciding : output.isDeciding with
        | true =>
            rw [silenced_cons_of_isDeciding hDeciding hLeft]
            simp [scoreOfOutputs_cons, hDeciding]
        | false =>
            rw [silenced_cons_of_not_isDeciding maxLines
              used hDeciding, ← hNext, if_neg (by simp), ih]
            cases silenced maxLines next rest with
            | true =>
                cases hStream : output.isStream <;>
                  simp [hStream, scoreOfOutputs_cons,
                    hDeciding]
            | false => simp [scoreOfOutputs_cons, hDeciding]
      · have hLe : maxLines ≤ used := by
          apply Nat.le_of_not_lt
          intro hLt
          exact hLeft (fun _ => hLt)
        rw [limitStreams_of_le hLe, silenced_of_le hLe]
        split
        · rfl
        · rename_i hNot
          exact scoreOfOutputs_filter max (by simpa using hNot)

------------------------------------------------------------
-- Limited Tracebacks
------------------------------------------------------------

/- Tracebacks do not decide. -/
theorem scoreOfOutputs_shortenTraceback
    (max : Float)
    (maxTraceback : Nat)
    (outputs : List Output) :
    Cell.scoreOfOutputs max
        (outputs.map (shortenTraceback maxTraceback)) =
      Cell.scoreOfOutputs max outputs := by
  induction outputs with
  | nil => rfl
  | cons output rest ih =>
      have hDeciding :
          (shortenTraceback maxTraceback output).isDeciding =
            output.isDeciding := by
        unfold shortenTraceback
        split <;> rfl
      have hVerdict :
          (shortenTraceback maxTraceback output).verdict max =
            output.verdict max := by
        unfold shortenTraceback
        split <;> rfl
      rw [List.map_cons, scoreOfOutputs_cons,
        scoreOfOutputs_cons, hDeciding, hVerdict, ih]

end Output

------------------------------------------------------------
-- Limited Cells
------------------------------------------------------------

namespace OutputLimits

/- The output that decides is dropped by the limits. -/
def silences
    (limits : OutputLimits)
    (outputs : List Output) : Bool :=
  match limits.maxLines with
  | none => false
  | some maxLines => Output.silenced maxLines 0 outputs

theorem scoreOfOutputs_apply
    (limits : OutputLimits)
    (max : Float)
    (outputs : List Output) :
    Cell.scoreOfOutputs max (limits.apply outputs) =
      Cell.scoreOfOutputs max
        (if limits.silences outputs then
          outputs.filter (fun output => !output.isStream)
        else
          outputs) := by
  have hTracebacks :
      Cell.scoreOfOutputs max (limits.apply outputs) =
        Cell.scoreOfOutputs max
          (limits.limitLines outputs) := by
    unfold apply limitTracebacks
    cases limits.maxTraceback with
    | none => rfl
    | some maxTraceback =>
        exact Output.scoreOfOutputs_shortenTraceback max
          maxTraceback _
  rw [hTracebacks]
  unfold limitLines silences
  cases limits.maxLines with
  | none => rfl
  | some maxLines =>
      exact Output.scoreOfOutputs_limitStreams max maxLines
        0 outputs

end OutputLimits

namespace Cell

/- The cell without its stream outputs. -/
def withoutStreams
    (cell : Cell) : Cell :=
  { cell with
    outputs :=
      cell.outputs.map
        (List.filter (fun output => !output.isStream)) }

/- The limits drop what decides the score of the cell. -/
def isSilencedBy
    (limits : OutputLimits)
    (cell : Cell) : Bool :=
  cell.cellType = .code && limits.silences cell.outputList

/- Outputs of equal score can stand for each other. -/
theorem score_withOutputs
    (cell : Cell)
    {outputs other : Option (List Output)}
    (h :
      scoreOfOutputs cell.points (outputs.getD []) =
        scoreOfOutputs cell.points (other.getD [])) :
    ({ cell with outputs := outputs } : Cell).score =
      ({ cell with outputs := other } : Cell).score := by
  have hAuto :
      ({ cell with outputs := outputs } : Cell).autoScore =
        ({ cell with outputs := other } : Cell).autoScore :=
      by
    unfold autoScore
    change
      (if cell.isSolution then
        if cell.isUnchanged then some 0 else none
      else if cell.cellType ≠ .code then
        none
      else
        some
          (scoreOfOutputs cell.points
            (outputs.getD []))) = _
    rw [h]
    rfl
  unfold score
  rw [hAuto]
  rfl

/- A silenced cell is scored as if it had no streams. -/
theorem score_limitOutput
    (limits : OutputLimits)
    (cell : Cell) :
    (cell.limitOutput limits).score =
      if cell.isSilencedBy limits then
        cell.withoutStreams.score
      else
        cell.score := by
  by_cases hCode : cell.cellType = .code
  · have hApply :=
      limits.scoreOfOutputs_apply cell.points cell.outputList
    have hLimited :
        scoreOfOutputs cell.points
            ((cell.outputs.map limits.apply).getD []) =
          scoreOfOutputs cell.points
            (limits.apply cell.outputList) := by
      unfold outputList
      cases cell.outputs with
      | none => rw [limits.scoreOfOutputs_apply]; simp
      | some outputs => rfl
    rw [limitOutput, if_pos hCode]
    cases hSilences : limits.silences cell.outputList with
    | true =>
        rw [if_pos (by simp [isSilencedBy, hCode, hSilences])]
        apply score_withOutputs
        rw [hLimited, hApply, hSilences, if_pos rfl]
        unfold outputList
        cases cell.outputs <;> rfl
    | false =>
        rw [if_neg (by simp [isSilencedBy, hSilences])]
        apply score_withOutputs
        rw [hLimited, hApply, hSilences]
        rfl
  · rw [limitOutput, if_neg hCode,
      if_neg (by simp [isSilencedBy, hCode])]

end Cell

/-
  Limiting the outputs of a notebook leaves the score of
  each cell as it was. Only a cell whose deciding output is
  dropped is scored as if it had no streams.
-/
theorem Notebook.scores_limitOutput
    (limits : OutputLimits)
    (notebook : Notebook)
    (i : Nat) :
    (notebook.limitOutput limits).cells[i]?.map Cell.score =
      notebook.cells[i]?.map
        (fun cell =>
          if cell.isSilencedBy limits then
            cell.withoutStreams.score
          else
            cell.score) := by
  rw [limitOutput, List.getElem?_map, Option.map_map]
  congr 1
  funext cell
  exact cell.score_limitOutput limits

/-
  Behind one line of text, stderr text no longer costs the
  points of the cell.
-/
theorem Notebook.scores_limitOutput_dropped :
    let cell : Cell :=
      { cellType := .code
        metadata :=
          { grading :=
              some { grade := some true, points := some 1 } }
        outputs :=
          some
            [Output.stream "stdout" "a",
             Output.stream "stderr" "b"] }
    let notebook := Notebook.ofCells [cell]
    let limits : OutputLimits := { maxLines := some 1 }
    notebook.cells[0]?.map Cell.score =
        some (.ok ⟨some 0, 1⟩) ∧
      (notebook.limitOutput limits).cells[0]?.map
          Cell.score =
        some (.ok ⟨some 1, 1⟩) ∧
      (notebook.limitOutput limits).cells[0]?.map
          Cell.score ≠
        notebook.cells[0]?.map Cell.score := by
  intro cell notebook limits
  have hFull :
      notebook.cells[0]?.map Cell.score =
        some (.ok ⟨some 0, 1⟩) := rfl
  have hLimited :
      (notebook.limitOutput limits).cells[0]?.map
          Cell.score =
        some (.ok ⟨some 1, 1⟩) := rfl
  have hNe : (1 : Float) ≠ 0 := by
    decide
  refine ⟨hFull, hLimited, ?_⟩
  rw [hFull, hLimited]
  simp [hNe]

end NotebookGrading
