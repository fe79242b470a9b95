import NotebookGrading.Environment.Value

/-
  Variables of the environment and of a file of
  assignments.

  A line of the file assigns a value to a name, possibly
  after the word export; blank lines and lines that begin
  with a number sign are skipped. Reading stops at the first
  line that is not understood.

  Variables that are already set win over the file, and the
  first of two lines for one name wins. The value of a line
  may mention all variables that are set before it.

  Key definitions include:
    * `Environment.parts?`
    * `Environment.assignment?`
    * `Environment.afterLines`
    * `Environment.lookup`
-/

namespace NotebookGrading

namespace Environment

------------------------------------------------------------
-- Assignments
------------------------------------------------------------

def isNameStart
    (c : Char) : Bool :=
  c.isAlpha || c = '_'

def isNameChar
    (c : Char) : Bool :=
  c.isAlphanum || c = '_' || c = '.'

def skipBlanks
    (cs : List Char) : List Char :=
  cs.dropWhile Text.isBlank

/- A name and what follows it, blanks aside. -/
def name? :
    List Char → Option (List Char × List Char)
  | [] => none
  | c :: rest =>
      if isNameStart c then
        some
          (c :: rest.takeWhile isNameChar,
            skipBlanks (rest.dropWhile isNameChar))
      else
        none

/- What follows an equals sign, blanks aside. -/
def afterEquals? : List Char → Option (List Char)
  | '=' :: rest => some (skipBlanks rest)
  | _ => none

/- A name and the characters of its value. -/
def parts?
    (cs : List Char) :
    Option (List Char × List Char) := do
  let (name, rest) ← name? cs
  match afterEquals? rest with
  | some value => some (name, value)
  | none =>
      if name = "export".toList then
        let (name, rest) ← name? rest
        let value ← afterEquals? rest
        some (name, value)
      else
        none

/-
  What a line assigns beside known variables; an idle line
  assigns nothing.
-/
def assignment?
    (known : Variables)
    (line : List Char) : Option Variables :=
  match Text.trimChars line with
  | [] => some []
  | '#' :: _ => some []
  | cs => do
      let (name, written) ← parts? cs
      let value ← value? known written
      some [(String.ofList name, String.ofList value)]

------------------------------------------------------------
-- Variables
------------------------------------------------------------

/- All variables after lines up to the first bad one. -/
def afterLines :
    Variables → List (List Char) → Variables
  | known, [] => known
  | known, line :: rest =>
      match assignment? known line with
      | none => known
      | some assigned =>
          afterLines (known ++ assigned) rest

/-
  The value of a variable, from those that are given and
  from the text of a file.
-/
def lookup
    (given : Variables)
    (file : Option String)
    (name : String) : Option String :=
  match file with
  | none => find? given name
  | some text => find? (afterLines given (lines text)) name

end Environment

end NotebookGrading
