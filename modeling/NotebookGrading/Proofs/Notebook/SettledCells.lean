import NotebookGrading.Proofs.Notebook.GradeIds
import NotebookGrading.Proofs.Notebook.LimitedScores
import NotebookGrading.Proofs.Text.Parts

/-
  Cells that were graded before.

  Limiting outputs, locking, and clearing repeated ids each
  lead to cells that they leave as they are, whatever the
  limits and switches. A stream that was cut has used up the
  lines that were left, so it is not cut again, marker and
  all.

  Main statements:
    * `Output.keptLines_keptLines`
    * `Output.limitStreams_limitStreams`
    * `Output.shortened_shortened`
    * `OutputLimits.apply_apply`
    * `Cell.limitOutput_limitOutput`
    * `Cell.lock_lock`, `Cell.lock_limitOutput`
    * `Cell.clearRepeated_of_nodup`
-/

namespace NotebookGrading

------------------------------------------------------------
-- Streams
------------------------------------------------------------

namespace Output

/- Lines that were kept are kept again. -/
theorem keptLines_keptLines
    {left : Nat}
    (hLeft : 0 < left)
    (lines : List String) :
    keptLines left (keptLines left lines) =
      keptLines left lines := by
  have hLength := length_keptLines hLeft lines
  have hFits : ¬ left < (keptLines left lines).length := by
    omega
  conv_lhs => rw [keptLines, if_neg hFits]

/- What is kept of some lines is made of lines. -/
theorem lines_ofLines_keptLines
    (left : Nat)
    (text : String) :
    Text.lines
        (Text.ofLines (keptLines left (Text.lines text))) =
      keptLines left (Text.lines text) := by
  apply Text.lines_ofLines
  · unfold keptLines
    split
    · simp
    · exact Text.lines_ne_nil text
  · intro line hMem
    unfold keptLines at hMem
    split at hMem
    · rcases List.mem_append.1 hMem with hTaken | hMarker
      · exact
          Text.mark_not_mem_of_mem_parts
            (List.mem_of_mem_take hTaken)
      · rw [List.mem_singleton.1 hMarker]
        decide
    · exact Text.mark_not_mem_of_mem_parts hMem

/-
  Streams within a limit stay as they are. The induction is
  over the outputs for any number of lines used before them,
  since what a stream uses up is the same both times.
-/
theorem limitStreams_limitStreams
    (maxLines used : Nat)
    (outputs : List Output) :
    limitStreams maxLines used
        (limitStreams maxLines used outputs) =
      limitStreams maxLines used outputs := by
  induction outputs generalizing used with
  | nil => rfl
  | cons output rest ih =>
      by_cases hStream : output.outputType = .stream
      · by_cases hUsed : maxLines ≤ used
        · rw [limitStreams, if_pos hStream, if_pos hUsed]
          exact ih used
        · rw [limitStreams, if_pos hStream, if_neg hUsed]
          simp only
          rw [limitStreams, if_pos hStream, if_neg hUsed]
          simp only [Option.getD_some,
            lines_ofLines_keptLines]
          rw [keptLines_keptLines (by omega), ih]
      · rw [limitStreams, if_neg hStream, limitStreams,
          if_neg hStream, ih]

------------------------------------------------------------
-- Tracebacks
------------------------------------------------------------

/-
  A traceback that was cut has its full length, except that
  the marker stays even when no line is allowed.
-/
theorem length_shortened
    {maxTraceback : Nat}
    {traceback : List String}
    (h : maxTraceback < traceback.length) :
    (shortened maxTraceback traceback).length =
      max maxTraceback 1 := by
  have hLong : ¬ traceback.length ≤ maxTraceback := by
    omega
  rw [shortened, if_neg hLong]
  simp only [List.length_append, List.length_take,
    List.length_cons, List.length_drop]
  omega

/- A traceback that was cut is not cut again. -/
theorem shortened_shortened
    (maxTraceback : Nat)
    (traceback : List String) :
    shortened maxTraceback
        (shortened maxTraceback traceback) =
      shortened maxTraceback traceback := by
  by_cases hShort : traceback.length ≤ maxTraceback
  · have hSame :
        shortened maxTraceback traceback = traceback := by
      rw [shortened, if_pos hShort]
    rw [hSame, hSame]
  · have hLength :=
      length_shortened (Nat.lt_of_not_le hShort)
    cases maxTraceback with
    | zero =>
        have hMarker :
            shortened 0 traceback = [tracebackTruncated] := by
          rw [shortened, if_neg hShort]
          simp
        rw [hMarker]
        rfl
    | succ limit =>
        have hFits :
            (shortened (limit + 1) traceback).length ≤
              limit + 1 := by
          omega
        conv_lhs => rw [shortened, if_pos hFits]

theorem shortenTraceback_shortenTraceback
    (maxTraceback : Nat)
    (output : Output) :
    shortenTraceback maxTraceback
        (shortenTraceback maxTraceback output) =
      shortenTraceback maxTraceback output := by
  by_cases hError : output.outputType = .error
  · simp [shortenTraceback, hError, Function.comp_def,
      shortened_shortened]
  · simp [shortenTraceback, hError]

/- Streams and tracebacks are limited independently. -/
theorem limitStreams_map_shortenTraceback
    (maxLines used maxTraceback : Nat)
    (outputs : List Output) :
    limitStreams maxLines used
        (outputs.map (shortenTraceback maxTraceback)) =
      (limitStreams maxLines used outputs).map
        (shortenTraceback maxTraceback) := by
  induction outputs generalizing used with
  | nil => rfl
  | cons output rest ih =>
      by_cases hStream : output.outputType = .stream
      · have hSame :
            shortenTraceback maxTraceback output =
              output := by
          simp [shortenTraceback, hStream]
        rw [List.map_cons, hSame, limitStreams,
          if_pos hStream, limitStreams, if_pos hStream]
        split
        · exact ih used
        · simp only [List.map_cons, ih]
          simp [shortenTraceback, hStream]
      · have hType :
            (shortenTraceback maxTraceback
              output).outputType = output.outputType := by
          unfold shortenTraceback
          split
          · rfl
          · rfl
        rw [List.map_cons, limitStreams, hType,
          if_neg hStream, limitStreams, if_neg hStream,
          List.map_cons, ih]

end Output

------------------------------------------------------------
-- Limits
------------------------------------------------------------

namespace OutputLimits

theorem limitLines_limitLines
    (limits : OutputLimits)
    (outputs : List Output) :
    limits.limitLines (limits.limitLines outputs) =
      limits.limitLines outputs := by
  unfold limitLines
  cases limits.maxLines with
  | none => rfl
  | some maxLines =>
      exact
        Output.limitStreams_limitStreams maxLines 0 outputs

theorem limitTracebacks_limitTracebacks
    (limits : OutputLimits)
    (outputs : List Output) :
    limits.limitTracebacks
        (limits.limitTracebacks outputs) =
      limits.limitTracebacks outputs := by
  unfold limitTracebacks
  cases limits.maxTraceback with
  | none => rfl
  | some maxTraceback =>
      simp [Function.comp_def,
        Output.shortenTraceback_shortenTraceback]

theorem limitLines_limitTracebacks
    (limits : OutputLimits)
    (outputs : List Output) :
    limits.limitLines (limits.limitTracebacks outputs) =
      limits.limitTracebacks (limits.limitLines outputs) := by
  unfold limitLines limitTracebacks
  cases limits.maxLines with
  | none => rfl
  | some maxLines =>
      cases limits.maxTraceback with
      | none => rfl
      | some maxTraceback =>
          exact
            Output.limitStreams_map_shortenTraceback maxLines
              0 maxTraceback outputs

/- Outputs within both limits stay as they are. -/
theorem apply_apply
    (limits : OutputLimits)
    (outputs : List Output) :
    limits.apply (limits.apply outputs) =
      limits.apply outputs := by
  unfold apply
  rw [limitLines_limitTracebacks, limitLines_limitLines,
    limitTracebacks_limitTracebacks]

end OutputLimits

------------------------------------------------------------
-- Cells
------------------------------------------------------------

namespace Cell

theorem limitOutput_limitOutput
    (limits : OutputLimits)
    (cell : Cell) :
    (cell.limitOutput limits).limitOutput limits =
      cell.limitOutput limits := by
  by_cases hCode : cell.cellType = .code
  · simp [limitOutput, hCode, Function.comp_def,
      limits.apply_apply]
  · simp [limitOutput, hCode]

/- The rule for a cell rests on its grading metadata. -/
theorem rule_eq_of_grading
    {cell other : Cell}
    (h : cell.grading = other.grading)
    (switches : LockSwitches) :
    switches.rule cell.isSolution cell.isGrade
        cell.isLocked =
      switches.rule other.isSolution other.isGrade
        other.isLocked := by
  simp [isSolution, isGrade, isLocked, flag, h]

theorem Lock.apply_apply
    (lock : Lock)
    (metadata : CellMetadata) :
    lock.apply (lock.apply metadata) =
      lock.apply metadata := by
  cases lock with
  | nothing => rfl
  | deleting => rfl
  | deletingAndEditing => rfl

theorem lock_lock
    (switches : LockSwitches)
    (cell : Cell) :
    (cell.lock switches).lock switches =
      cell.lock switches := by
  rw [lock, rule_eq_of_grading (cell.grading_lock switches)]
  simp [lock, Lock.apply_apply]

/- Locks and limits do not get in each other's way. -/
theorem lock_limitOutput
    (switches : LockSwitches)
    (limits : OutputLimits)
    (cell : Cell) :
    (cell.limitOutput limits).lock switches =
      (cell.lock switches).limitOutput limits := by
  rw [lock,
    rule_eq_of_grading (cell.grading_limitOutput limits)]
  by_cases hCode : cell.cellType = .code
  · simp [limitOutput, lock, hCode]
  · simp [limitOutput, lock, hCode]

/- Where ids are unique and new, no cell is cleared. -/
theorem clearRepeated_of_nodup
    {seen : List String}
    {cells : List Cell}
    (hUnique : (unitIds cells).Nodup)
    (hNew : ∀ id ∈ unitIds cells, id ∉ seen) :
    clearRepeated seen cells = cells := by
  induction cells generalizing seen with
  | nil => rfl
  | cons cell rest ih =>
      rcases nodup_unitIds_cons.1 hUnique with
        ⟨hOwn, hRest⟩
      have hRestNew : ∀ id ∈ unitIds rest, id ∉ seen := by
        intro id hMem
        exact hNew id (mem_unitIds_cons.2 (.inr hMem))
      unfold clearRepeated
      cases hId : cell.uniqueId? with
      | none => simp only [ih hRest hRestNew]
      | some id =>
          have hNotSeen : id ∉ seen :=
            hNew id (mem_unitIds_cons.2 (.inl hId))
          simp only [if_neg hNotSeen]
          congr 1
          apply ih hRest
          intro other hMem hSeen
          rcases List.mem_cons.1 hSeen with rfl | hSeen
          · exact hOwn other hId hMem
          · exact hRestNew other hMem hSeen

end Cell

end NotebookGrading
