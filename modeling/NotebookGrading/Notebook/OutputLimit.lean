import NotebookGrading.Notebook.Basic
import NotebookGrading.Text.Lines

/-
  Limits on the outputs of code cells.

  The streams of a cell share a number of lines. The stream
  that goes beyond it is cut and ends in a marker, which
  counts as one of the lines, and the streams after it are
  dropped. A long traceback keeps its head and its tail
  around a marker.

  Key definitions include:
    * `OutputLimits`
    * `Output.limitStreams`
    * `Output.shortenTraceback`
    * `Cell.limitOutput`
    * `Notebook.limitOutput`
-/

namespace NotebookGrading

------------------------------------------------------------
-- Limits
------------------------------------------------------------

def defaultMaxLines : Nat :=
  1000

def defaultMaxTraceback : Nat :=
  100

/- The most lines kept; without a limit all are kept. -/
structure OutputLimits where
  maxLines : Option Nat := some defaultMaxLines
  maxTraceback : Option Nat := some defaultMaxTraceback
deriving DecidableEq, Repr

/- The last line of a stream that was cut. -/
def outputTruncated : String :=
  "... Output truncated ..."

/- What stands for the middle of a traceback. -/
def tracebackTruncated : String :=
  "... Traceback truncated ..."

------------------------------------------------------------
-- Streams
------------------------------------------------------------

namespace Output

/-
  The lines of a stream when a number of lines is left for
  it, which is not zero.
-/
def keptLines
    (left : Nat)
    (lines : List String) : List String :=
  if left < lines.length then
    lines.take (left - 1) ++ [outputTruncated]
  else
    lines

/-
  The outputs that remain when a number of lines has been
  used up before them.
-/
def limitStreams
    (maxLines : Nat) :
    Nat → List Output → List Output
  | _, [] => []
  | used, output :: rest =>
      if output.outputType = .stream then
        if maxLines ≤ used then
          limitStreams maxLines used rest
        else
          let lines :=
            keptLines (maxLines - used)
              (Text.lines (output.text.getD ""))
          { output with text := some (Text.ofLines lines) }
            :: limitStreams maxLines (used + lines.length)
              rest
      else
        output :: limitStreams maxLines used rest

------------------------------------------------------------
-- Tracebacks
------------------------------------------------------------

/- The head and the tail of a traceback that is too long. -/
def shortened
    (maxTraceback : Nat)
    (traceback : List String) : List String :=
  if traceback.length ≤ maxTraceback then
    traceback
  else
    let head := maxTraceback / 2
    let tail := maxTraceback - (head + 1)
    traceback.take head ++ tracebackTruncated ::
      traceback.drop (traceback.length - tail)

/- An error with a traceback of limited length. -/
def shortenTraceback
    (maxTraceback : Nat)
    (output : Output) : Output :=
  if output.outputType = .error then
    { output with
      traceback :=
        output.traceback.map (shortened maxTraceback) }
  else
    output

end Output

------------------------------------------------------------
-- Cells And Notebooks
------------------------------------------------------------

namespace OutputLimits

/- The outputs of a cell within the limit on lines. -/
def limitLines
    (limits : OutputLimits)
    (outputs : List Output) : List Output :=
  match limits.maxLines with
  | none => outputs
  | some maxLines => Output.limitStreams maxLines 0 outputs

/- The outputs of a cell within the limit on tracebacks. -/
def limitTracebacks
    (limits : OutputLimits)
    (outputs : List Output) : List Output :=
  match limits.maxTraceback with
  | none => outputs
  | some maxTraceback =>
      outputs.map (Output.shortenTraceback maxTraceback)

/- The outputs of a cell within both limits. -/
def apply
    (limits : OutputLimits)
    (outputs : List Output) : List Output :=
  limits.limitTracebacks (limits.limitLines outputs)

end OutputLimits

/- A cell with limited outputs; only code cells change. -/
def Cell.limitOutput
    (limits : OutputLimits)
    (cell : Cell) : Cell :=
  if cell.cellType = .code then
    { cell with outputs := cell.outputs.map limits.apply }
  else
    cell

def Notebook.limitOutput
    (limits : OutputLimits)
    (notebook : Notebook) : Notebook :=
  { notebook with
    cells := notebook.cells.map (Cell.limitOutput limits) }

end NotebookGrading
