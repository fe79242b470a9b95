import NotebookGrading.Notebook.Locking
import NotebookGrading.Notebook.OutputLimit
import NotebookGrading.Text.Blank
import NotebookGrading.Text.Digit

/-
  Configuration of the autograding pipeline by named
  variables.

  Switches are the words 1, true, yes, on and 0, false, no,
  off in any case. A limit is a number, or -1 for none.
  Blanks around values do not count, and a value that is
  missing or not understood gives the default.

  Key definitions include:
    * `Configuration`
    * `Configuration.ofLookup`
-/

namespace NotebookGrading

structure Configuration where
  header : Option String := none
  footer : Option String := none
  locks : LockSwitches := {}
  limits : Option OutputLimits := none
deriving DecidableEq, Repr

namespace Configuration

------------------------------------------------------------
-- Values
------------------------------------------------------------

/- A path that is not blank. -/
def path?
    (value : Option String) : Option String :=
  match value.map Text.trim with
  | none => none
  | some path => if path = "" then none else some path

/- The switch that a word stands for. -/
def switchOfWord? : String → Option Bool
  | "1" => some true
  | "true" => some true
  | "yes" => some true
  | "on" => some true
  | "0" => some false
  | "false" => some false
  | "no" => some false
  | "off" => some false
  | _ => none

def switch
    (value : Option String)
    (absent : Bool) : Bool :=
  ((value.map (fun text =>
    (Text.trim text).map Char.toLower)).bind
      switchOfWord?).getD absent

/- Limits have 64 bits. -/
def limitBound : Nat :=
  UInt64.size

/- A number of ASCII digits after an optional plus. -/
def count?
    (text : String) : Option Nat :=
  let digits :=
    match text.toList with
    | '+' :: rest => rest
    | cs => cs
  if digits.isEmpty || !digits.all Text.isAsciiDigit then
    none
  else if Text.digitsValue digits < limitBound then
    some (Text.digitsValue digits)
  else
    none

/- A limit, where -1 means that there is none. -/
def limit
    (value : Option String)
    (absent : Nat) : Option Nat :=
  match value.map Text.trim with
  | none => some absent
  | some text =>
      if text = "-1" then
        none
      else
        some ((count? text).getD absent)

------------------------------------------------------------
-- Variables
------------------------------------------------------------

/- The switches of the locking rules. -/
def lockSwitches
    (lookup : String → Option String) : LockSwitches where
  solutionCells :=
    switch (lookup "NBGRADE_LOCK_SOLUTION_CELLS") true
  gradeCells :=
    switch (lookup "NBGRADE_LOCK_GRADE_CELLS") true
  readonlyCells :=
    switch (lookup "NBGRADE_LOCK_READONLY_CELLS") true
  allCells :=
    switch (lookup "NBGRADE_LOCK_ALL_CELLS") false

/- The limits on outputs, if outputs are limited. -/
def outputLimits?
    (lookup : String → Option String) :
    Option OutputLimits :=
  if switch (lookup "NBGRADE_LIMIT_OUTPUT") false then
    some
      { maxLines :=
          limit (lookup "NBGRADE_MAX_OUTPUT_LINES")
            defaultMaxLines
        maxTraceback :=
          limit (lookup "NBGRADE_MAX_TRACEBACK_LINES")
            defaultMaxTraceback }
  else
    none

/- The configuration that variables describe. -/
def ofLookup
    (lookup : String → Option String) :
    Configuration where
  header := path? (lookup "NBGRADE_HEADER")
  footer := path? (lookup "NBGRADE_FOOTER")
  locks := lockSwitches lookup
  limits := outputLimits? lookup

end Configuration

end NotebookGrading
