import NotebookGrading.Environment.Line
import NotebookGrading.Text.Alphanumeric

/-
  Written values of variables.

  Within single quotes every character is literal. Within
  double quotes and outside of quotes a backslash stands in
  front of a character that is meant literally, or of an n
  for a line feed, and a dollar sign in front of the name of
  a variable whose value is meant. Such a name consists of
  letters and digits, or of anything within braces. After a
  blank outside of quotes only a remark may follow.

  The character that ends a name without braces is literal
  whatever it is, unless it begins another name.

  Key definitions include:
    * `Environment.Variables`
    * `Environment.valueOf`
    * `Environment.ValuePlace`
    * `Environment.value?`
-/

namespace NotebookGrading

namespace Environment

------------------------------------------------------------
-- Variables
------------------------------------------------------------

/- Names with values; the first value of a name counts. -/
abbrev Variables :=
  List (String × String)

def find?
    (known : Variables)
    (name : String) : Option String :=
  (List.find? (fun pair => pair.1 == name) known).map
    Prod.snd

/- The value of a variable, which may be missing. -/
def valueOf
    (known : Variables)
    (name : List Char) : List Char :=
  match find? known (String.ofList name) with
  | some value => value.toList
  | none => []

------------------------------------------------------------
-- Places
------------------------------------------------------------

/- What the characters read so far mean for the next one. -/
inductive ValuePlace
  | bare
  | single
  | double
  | escaped (inDouble : Bool)
  | name (inDouble : Bool) (read : List Char)
  | braced (inDouble : Bool) (read : List Char)
  | done
deriving DecidableEq, Repr

/- The character that a backslash in front stands for. -/
def escapedChar? :
    Char → Option Char
  | '\\' => some '\\'
  | '\'' => some '\''
  | '"' => some '"'
  | '$' => some '$'
  | ' ' => some ' '
  | 'n' => some '\n'
  | _ => none

def isGap
    (c : Char) : Bool :=
  c = ' ' || c = '\t'

/- The place outside or inside of double quotes. -/
def openPlace
    (inDouble : Bool) : ValuePlace :=
  if inDouble then .double else .bare

------------------------------------------------------------
-- Values
------------------------------------------------------------

/- What a value ends with at a place, if it may end. -/
def valueEnd?
    (known : Variables) :
    ValuePlace → Option (List Char)
  | .bare => some []
  | .single => none
  | .double => none
  | .escaped inDouble =>
      if inDouble then none else some []
  | .name inDouble read =>
      if inDouble then none
      else some (valueOf known read)
  | .braced _ _ => none
  | .done => some []

/- The characters of a value from a place on. -/
def valueFrom?
    (known : Variables) :
    ValuePlace → List Char → Option (List Char)
  | place, [] => valueEnd? known place
  | .done, c :: rest =>
      if isGap c then valueFrom? known .done rest
      else if c = '#' then some []
      else none
  | .escaped inDouble, c :: rest =>
      match escapedChar? c with
      | none => none
      | some literal =>
          (valueFrom? known (openPlace inDouble)
            rest).map (literal :: ·)
  | .name inDouble read, c :: rest =>
      if Text.isAlphanumeric c then
        valueFrom? known
          (.name inDouble (read ++ [c])) rest
      else if c = '\x7b' && read = [] then
        valueFrom? known (.braced inDouble []) rest
      else if c = '$' then
        (valueFrom? known (.name inDouble []) rest).map
          (valueOf known read ++ ·)
      else
        (valueFrom? known (openPlace inDouble)
          rest).map (valueOf known read ++ c :: ·)
  | .braced inDouble read, c :: rest =>
      if c = '\x7d' then
        (valueFrom? known (openPlace inDouble)
          rest).map (valueOf known read ++ ·)
      else
        valueFrom? known
          (.braced inDouble (read ++ [c])) rest
  | .single, c :: rest =>
      if c = '\'' then valueFrom? known .bare rest
      else (valueFrom? known .single rest).map (c :: ·)
  | .double, c :: rest =>
      if c = '"' then valueFrom? known .bare rest
      else if c = '\\' then
        valueFrom? known (.escaped true) rest
      else if c = '$' then
        valueFrom? known (.name true []) rest
      else (valueFrom? known .double rest).map (c :: ·)
  | .bare, c :: rest =>
      if c = '\'' then valueFrom? known .single rest
      else if c = '"' then valueFrom? known .double rest
      else if c = '\\' then
        valueFrom? known (.escaped false) rest
      else if c = '$' then
        valueFrom? known (.name false []) rest
      else if isGap c then valueFrom? known .done rest
      else (valueFrom? known .bare rest).map (c :: ·)

/- The value written in some characters. -/
def value?
    (known : Variables) :
    List Char → Option (List Char)
  | [] => some []
  | '#' :: _ => some []
  | cs => valueFrom? known .bare cs

end Environment

end NotebookGrading
