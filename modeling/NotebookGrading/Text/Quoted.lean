import NotebookGrading.Text.Visible

/-
  Quoted texts, as error messages show them.

  A quoted text stands between double quotes. The double
  quote, the backslash, the null character, the tab, the
  line feed and the carriage return are written with a
  backslash and one character, and every other character
  without a visible form of its own by its code point in
  hexadecimal digits. A text that may be absent is written
  as None, or as Some with the quoted text.

  Key definitions include:
    * `Text.quoteChar`
    * `Text.quote`
    * `Text.quoteOption`
-/

namespace NotebookGrading

namespace Text

/- The hexadecimal digits of a number, in lower case. -/
def hexDigits
    (n : Nat) : List Char :=
  Nat.toDigits 16 n

/- One character inside a quoted text. -/
def quoteChar
    (c : Char) : List Char :=
  if c = '"' then ['\\', '"']
  else if c = '\\' then ['\\', '\\']
  else if c.toNat = 0 then ['\\', '0']
  else if c = '\t' then ['\\', 't']
  else if c = '\n' then ['\\', 'n']
  else if c = '\r' then ['\\', 'r']
  else if isVisible c then [c]
  else
    ['\\', 'u', '\x7b'] ++ hexDigits c.toNat ++ ['\x7d']

/- A text in double quotes. -/
def quote
    (text : String) : String :=
  String.ofList
    ('"' :: text.toList.flatMap quoteChar ++ ['"'])

/- A text that may be absent. -/
def quoteOption : Option String → String
  | none => "None"
  | some text => "Some(" ++ quote text ++ ")"

end Text

end NotebookGrading
