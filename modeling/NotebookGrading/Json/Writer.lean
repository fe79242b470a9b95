import NotebookGrading.Double.Style
import NotebookGrading.Json.Document

/-
  The text of a document, compact or indented.

  The compact form has no spaces. The indented form puts
  every item and member on a line of its own, two spaces
  deeper than its container, and one space after the colon;
  empty containers stay on one line. Quoted texts escape
  the double quote, the backslash and the characters below
  U+0020.

  Key definitions include:
    * `Json.quoted`
    * `Json.Document.compact`
    * `Json.Document.indented`
-/

namespace NotebookGrading

namespace Json

------------------------------------------------------------
-- Leaves
------------------------------------------------------------

/- A hexadecimal digit in lower case. -/
def hexDigit
    (n : Nat) : Char :=
  Nat.digitChar (n % 16)

/- One character inside a quoted text. -/
def quotedChar
    (c : Char) : List Char :=
  if c = '"' then ['\\', '"']
  else if c = '\\' then ['\\', '\\']
  else if c = '\x08' then ['\\', 'b']
  else if c = '\x0c' then ['\\', 'f']
  else if c = '\n' then ['\\', 'n']
  else if c = '\r' then ['\\', 'r']
  else if c = '\t' then ['\\', 't']
  else if c.toNat < 0x20 then
    ['\\', 'u', '0', '0',
      hexDigit (c.toNat / 16), hexDigit c.toNat]
  else [c]

/- A text in double quotes. -/
def quoted
    (text : String) : String :=
  String.ofList
    ('"' :: text.toList.flatMap quotedChar ++ ['"'])

/- A whole number in base ten. -/
def wholeText
    (n : Int) : String :=
  let digits := Double.decimalDigits n.natAbs
  String.ofList (if n < 0 then '-' :: digits else digits)

def Number.text : Number → String
  | .whole value => wholeText value
  | .real value => Double.document value

namespace Document

def numberText : Option Number → String
  | none => "null"
  | some value => value.text

def quotedOption : Option String → String
  | none => "\"\""
  | some text => quoted text

def boolText : Bool → String
  | true => "true"
  | false => "false"

------------------------------------------------------------
-- The Compact Form
------------------------------------------------------------

/- A comma in front of every part but the first. -/
def comma
    (first : Bool) : String :=
  if first then "" else ","

mutual

/- A document without spaces. -/
def compact : Document → String
  | .null => "null"
  | .bool value => boolText value
  | .number value => numberText value
  | .string value => quotedOption value
  | .array items =>
      "[" ++ compactItems true items ++ "]"
  | .object members =>
      "\x7b" ++ compactMembers true members ++ "\x7d"

def compactItems
    (first : Bool) :
    List Document → String
  | [] => ""
  | item :: rest =>
      comma first ++ compact item ++
        compactItems false rest

def compactMembers
    (first : Bool) :
    List (Option String × Document) → String
  | [] => ""
  | (key, value) :: rest =>
      comma first ++ quotedOption key ++ ":" ++
        compact value ++ compactMembers false rest

end

------------------------------------------------------------
-- The Indented Form
------------------------------------------------------------

/- A line feed and the indentation of a nesting depth. -/
def newLine
    (depth : Nat) : String :=
  String.ofList ('\n' :: List.replicate (2 * depth) ' ')

mutual

/- A document laid out at a nesting depth. -/
def indentedAt
    (depth : Nat) :
    Document → String
  | .null => "null"
  | .bool value => boolText value
  | .number value => numberText value
  | .string value => quotedOption value
  | .array [] => "[]"
  | .array (item :: rest) =>
      "[" ++ indentedItems (depth + 1) true (item :: rest) ++
        newLine depth ++ "]"
  | .object [] => "\x7b\x7d"
  | .object (member :: rest) =>
      "\x7b" ++
        indentedMembers (depth + 1) true (member :: rest) ++
        newLine depth ++ "\x7d"

def indentedItems
    (depth : Nat)
    (first : Bool) :
    List Document → String
  | [] => ""
  | item :: rest =>
      comma first ++ newLine depth ++
        indentedAt depth item ++
        indentedItems depth false rest

def indentedMembers
    (depth : Nat)
    (first : Bool) :
    List (Option String × Document) → String
  | [] => ""
  | (key, value) :: rest =>
      comma first ++ newLine depth ++ quotedOption key ++
        ": " ++ indentedAt depth value ++
        indentedMembers depth false rest

end

/- A document with one part per line. -/
def indented
    (document : Document) : String :=
  indentedAt 0 document

end Document

end Json

end NotebookGrading
