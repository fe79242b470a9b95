/-
  Texts cut at a mark, such as lines cut at line feeds.

  A mark separates two parts, so a text has one part more
  than it has marks and the empty text has one empty part.
  Joining the parts of a text with the mark gives the text
  back.

  Key definitions include:
    * `Text.splitOn`
    * `Text.joinWith`
    * `Text.parts`
    * `Text.ofParts`
    * `Text.lines`
    * `Text.ofLines`
    * `Text.contains`

  Key theorems include:
    * `Text.joinWith_splitOn`
    * `Text.ofLines_lines`
-/

namespace NotebookGrading

namespace Text

------------------------------------------------------------
-- Splitting And Joining
------------------------------------------------------------

/- The parts of a list of characters. -/
def splitOn
    (mark : Char) :
    List Char → List (List Char)
  | [] => [[]]
  | c :: rest =>
      if c = mark then
        [] :: splitOn mark rest
      else
        match splitOn mark rest with
        | [] => [[c]]
        | part :: parts => (c :: part) :: parts

/- Parts put together with a mark between any two. -/
def joinWith
    (mark : Char) :
    List (List Char) → List Char
  | [] => []
  | [part] => part
  | part :: next :: rest =>
      part ++ mark :: joinWith mark (next :: rest)

theorem splitOn_ne_nil
    (mark : Char)
    (cs : List Char) :
    splitOn mark cs ≠ [] := by
  cases cs with
  | nil => simp [splitOn]
  | cons c rest =>
      unfold splitOn
      split
      · simp
      · split <;> simp

theorem joinWith_cons_cons
    (mark c : Char)
    (part : List Char)
    (parts : List (List Char)) :
    joinWith mark ((c :: part) :: parts) =
      c :: joinWith mark (part :: parts) := by
  cases parts <;> simp [joinWith]

/- Joining the parts of a text gives the text back. -/
theorem joinWith_splitOn
    (mark : Char)
    (cs : List Char) :
    joinWith mark (splitOn mark cs) = cs := by
  induction cs with
  | nil => rfl
  | cons c rest ih =>
      have hNe := splitOn_ne_nil mark rest
      unfold splitOn
      cases hSplit : splitOn mark rest with
      | nil => exact absurd hSplit hNe
      | cons part parts =>
          rw [hSplit] at ih
          split
          · rename_i hMark
            simp [joinWith, ih, hMark]
          · simp [joinWith_cons_cons, ih]

/- The parts of a text. -/
def parts
    (mark : Char)
    (text : String) : List String :=
  (splitOn mark text.toList).map String.ofList

/- The text with the given parts. -/
def ofParts
    (mark : Char)
    (parts : List String) : String :=
  String.ofList
    (joinWith mark (parts.map String.toList))

theorem ofParts_parts
    (mark : Char)
    (text : String) :
    ofParts mark (parts mark text) = text := by
  simp [ofParts, parts, Function.comp_def,
    joinWith_splitOn]

------------------------------------------------------------
-- Lines
------------------------------------------------------------

/- The lines of a text. -/
def lines
    (text : String) : List String :=
  parts '\n' text

/- The text with the given lines. -/
def ofLines
    (lines : List String) : String :=
  ofParts '\n' lines

theorem ofLines_lines
    (text : String) :
    ofLines (lines text) = text :=
  ofParts_parts '\n' text

------------------------------------------------------------
-- Containment
------------------------------------------------------------

/- Whether a pattern occurs somewhere in the characters. -/
def occursIn
    (pattern : List Char) :
    List Char → Bool
  | [] => pattern.isEmpty
  | c :: rest =>
      pattern.isPrefixOf (c :: rest) ||
        occursIn pattern rest

/- Whether a text contains a pattern. -/
def contains
    (text pattern : String) : Bool :=
  occursIn pattern.toList text.toList

end Text

end NotebookGrading
