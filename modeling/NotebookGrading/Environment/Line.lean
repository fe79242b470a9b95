import NotebookGrading.Text.Blank

/-
  Lines of assignments.

  A line of assignments ends at a line feed outside of
  quotes, so a quoted value may span several lines of text.
  A number sign after white space outside of quotes begins a
  remark, which lasts until the line feed and is no part of
  the line.

  Quotes are paired here before values are read, and by
  fewer rules: within either kind of quotes a backslash
  takes its meaning from the character behind it. Of white
  space characters in a row the first is a gap and then
  every other one; carriage returns are never gaps.

  The last line may lack its line feed, but it counts only
  if it ends neither within quotes, nor after a backslash,
  nor in a gap.

  Key definitions include:
    * `Environment.LinePlace`
    * `Environment.LinePlace.after`
    * `Environment.lines`
-/

namespace NotebookGrading

namespace Environment

------------------------------------------------------------
-- Places
------------------------------------------------------------

/- Two kinds of quotes. -/
inductive Quote
  | single
  | double
deriving DecidableEq, Repr

def Quote.mark : Quote → Char
  | .single => '\''
  | .double => '"'

/- What the characters read so far mean for the next one. -/
inductive LinePlace
  | margin
  | plain
  | gap
  | escaped
  | quoted (quote : Quote)
  | quotedEscaped (quote : Quote)
  | remark
deriving DecidableEq, Repr

namespace LinePlace

/- Whether a line feed belongs to the line. -/
def isQuoted : LinePlace → Bool
  | .quoted _ => true
  | .quotedEscaped _ => true
  | _ => false

/- Whether a line may end without a line feed. -/
def mayEnd : LinePlace → Bool
  | .margin => true
  | .plain => true
  | .remark => true
  | _ => false

/- The place after a character without special rules. -/
def afterPlain
    (c : Char) : LinePlace :=
  if c = '\\' then .escaped
  else if c = Quote.single.mark then .quoted .single
  else if c = Quote.double.mark then .quoted .double
  else .plain

/- The place after a character. -/
def after :
    LinePlace → Char → LinePlace
  | .margin, c =>
      if Text.isBlank c then .margin
      else if c = '#' then .remark
      else afterPlain c
  | .plain, c =>
      if c = '\r' then .plain
      else if Text.isBlank c then .gap
      else afterPlain c
  | .gap, c =>
      if c = '#' then .remark else afterPlain c
  | .escaped, _ => .plain
  | .quoted quote, c =>
      if c = '\\' then .quotedEscaped quote
      else if c = quote.mark then .plain
      else .quoted quote
  | .quotedEscaped quote, _ => .quoted quote
  | .remark, _ => .remark

end LinePlace

------------------------------------------------------------
-- Lines
------------------------------------------------------------

/-
  The lines of some characters, of which the first goes on
  at a place. A line that does not end properly is left out.
-/
def linesFrom :
    LinePlace → List Char → List (List Char)
  | place, [] => if place.mayEnd then [[]] else []
  | place, c :: rest =>
      if c = '\n' && !place.isQuoted then
        [] :: linesFrom .margin rest
      else
        let next := place.after c
        match linesFrom next rest with
        | [] => []
        | line :: lines =>
            if next = .remark then line :: lines
            else (c :: line) :: lines

/-
  The lines of a text. A mark of the byte order in front is
  no part of the first one.
-/
def lines
    (text : String) : List (List Char) :=
  match text.toList with
  | '\uFEFF' :: rest => linesFrom .margin rest
  | cs => linesFrom .margin cs

end Environment

end NotebookGrading
