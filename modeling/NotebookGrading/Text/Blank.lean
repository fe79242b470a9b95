/-
  White space and trimming.

  The white space characters are the twenty-five code
  points with the Unicode property White_Space. Trimming
  takes them off both ends of a text.

  Key definitions include:
    * `Text.isBlank`
    * `Text.trimChars`
    * `Text.trim`
-/

namespace NotebookGrading

namespace Text

/- The code points with the property White_Space. -/
def blankRanges : List (Nat × Nat) :=
  [(0x0009, 0x000D), (0x0020, 0x0020),
   (0x0085, 0x0085), (0x00A0, 0x00A0),
   (0x1680, 0x1680), (0x2000, 0x200A),
   (0x2028, 0x2029), (0x202F, 0x202F),
   (0x205F, 0x205F), (0x3000, 0x3000)]

def isBlank
    (c : Char) : Bool :=
  blankRanges.any (fun range =>
    range.1 ≤ c.toNat && c.toNat ≤ range.2)

/- A list of characters without its trailing blanks. -/
def dropTrailingBlanks
    (cs : List Char) : List Char :=
  (cs.reverse.dropWhile isBlank).reverse

/- A list of characters without the blanks at its ends. -/
def trimChars
    (cs : List Char) : List Char :=
  dropTrailingBlanks (cs.dropWhile isBlank)

/- A text without the blanks at its ends. -/
def trim
    (text : String) : String :=
  String.ofList (trimChars text.toList)

end Text

end NotebookGrading
