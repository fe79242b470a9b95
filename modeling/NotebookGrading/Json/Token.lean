import NotebookGrading.Json.Number

/-
  Tokens of JSON texts.

  A text is cut into punctuation, the three words, numbers
  and quoted texts; spaces, tabs, line feeds and carriage
  returns between them are dropped. Inside a quoted text a
  character below U+0020 is refused, and an escape stands
  for a character or, in its \u form, for a UTF-16 unit.
  Two units of a surrogate pair make one character; a unit
  that is left alone makes the text valueless.

  Key definitions include:
    * `Json.Token`
    * `Json.Piece`
    * `Json.characters?`
    * `Json.tokens?`
-/

namespace NotebookGrading

namespace Json

------------------------------------------------------------
-- Quoted Texts
------------------------------------------------------------

/- A character, or a UTF-16 unit given by its number. -/
inductive Piece
  | char (value : Char)
  | unit (value : Nat)
deriving DecidableEq

def isHighSurrogate
    (unit : Nat) : Bool :=
  0xD800 ≤ unit && unit < 0xDC00

def isLowSurrogate
    (unit : Nat) : Bool :=
  0xDC00 ≤ unit && unit < 0xE000

/- The character of a surrogate pair. -/
def pairedChar
    (high low : Nat) : Char :=
  Char.ofNat
    (0x10000 + (high - 0xD800) * 0x400 + (low - 0xDC00))

/- A unit that stands for a character of its own. -/
def loneUnit?
    (unit : Nat) : Option Char :=
  if isHighSurrogate unit || isLowSurrogate unit then
    none
  else
    some (Char.ofNat unit)

/-
  The characters of a row of pieces, given the first half
  of a surrogate pair if one was just read.
-/
def charactersAfter? :
    Option Nat → List Piece → Option (List Char)
  | none, [] => some []
  | some _, [] => none
  | none, .char c :: rest =>
      (charactersAfter? none rest).map (c :: ·)
  | some _, .char _ :: _ => none
  | none, .unit unit :: rest =>
      if isHighSurrogate unit then
        charactersAfter? (some unit) rest
      else do
        let c ← loneUnit? unit
        let cs ← charactersAfter? none rest
        some (c :: cs)
  | some high, .unit unit :: rest =>
      if isLowSurrogate unit then
        (charactersAfter? none rest).map
          (pairedChar high unit :: ·)
      else
        none

/- The characters of a row of pieces. -/
def characters?
    (pieces : List Piece) : Option (List Char) :=
  charactersAfter? none pieces

/- The character of a short escape. -/
def shortEscape? :
    Char → Option Char
  | '"' => some '"'
  | '\\' => some '\\'
  | '/' => some '/'
  | 'b' => some '\x08'
  | 'f' => some '\x0c'
  | 'n' => some '\n'
  | 'r' => some '\r'
  | 't' => some '\t'
  | _ => none

/- The unit of four hexadecimal digits. -/
def unit?
    (a b c d : Char) : Option Nat := do
  let a ← Text.hexValue? a
  let b ← Text.hexValue? b
  let c ← Text.hexValue? c
  let d ← Text.hexValue? d
  some (((a * 16 + b) * 16 + c) * 16 + d)

/-
  The pieces up to the closing quote, put in front of the
  given ones in reverse, and what follows the quote.
-/
def pieces? :
    List Piece → List Char →
      Option (List Piece × List Char)
  | _, [] => none
  | before, '"' :: rest => some (before.reverse, rest)
  | before, '\\' :: 'u' :: a :: b :: c :: d :: rest =>
      match unit? a b c d with
      | some unit => pieces? (.unit unit :: before) rest
      | none => none
  | before, '\\' :: c :: rest =>
      match shortEscape? c with
      | some value => pieces? (.char value :: before) rest
      | none => none
  | before, c :: rest =>
      if c.toNat < 0x20 || c = '\\' then
        none
      else
        pieces? (.char c :: before) rest

/- The text after an opening quote and what follows it. -/
def quoted?
    (cs : List Char) :
    Option (Option String × List Char) :=
  (pieces? [] cs).map (fun result =>
    ((characters? result.1).map String.ofList, result.2))

------------------------------------------------------------
-- Written Numbers
------------------------------------------------------------

/- The digits after a point; there has to be one. -/
def fraction? :
    List Char → Option (List Char × List Char)
  | '.' :: rest =>
      let (digits, after) := Double.takeDigits rest
      if digits.isEmpty then none else some (digits, after)
  | cs => some ([], cs)

/- The exponent; there has to be a digit in it. -/
def exponent? :
    List Char →
      Option (Option (Bool × List Char) × List Char)
  | [] => some (none, [])
  | c :: rest =>
      if c = 'e' || c = 'E' then
        let (down, unsigned) := Double.takeSign rest
        let (digits, after) := Double.takeDigits unsigned
        if digits.isEmpty then
          none
        else
          some (some (down, digits), after)
      else
        some (none, c :: rest)

/-
  A numeral at the front of the characters and what follows
  it. A zero in front of another digit is refused.
-/
def numeral?
    (cs : List Char) :
    Option (Numeral × List Char) := do
  let (negative, unsigned) :=
    match cs with
    | '-' :: rest => (true, rest)
    | cs => (false, cs)
  let (whole, afterWhole) := Double.takeDigits unsigned
  if whole.isEmpty then none
  else if whole.head? = some '0' && whole.length > 1 then
    none
  else
    let (fraction, afterFraction) ← fraction? afterWhole
    let (exponent, rest) ← exponent? afterFraction
    some (⟨negative, whole, fraction, exponent⟩, rest)

------------------------------------------------------------
-- Tokens
------------------------------------------------------------

inductive Token
  | openArray
  | closeArray
  | openObject
  | closeObject
  | comma
  | colon
  | null
  | bool (value : Bool)
  | number (value : Option Number)
  | string (value : Option String)
deriving DecidableEq

def isSpace
    (c : Char) : Bool :=
  c = ' ' || c = '\t' || c = '\n' || c = '\r'

/- The token at the front and what follows it. -/
def token? :
    List Char → Option (Token × List Char)
  | '[' :: rest => some (.openArray, rest)
  | ']' :: rest => some (.closeArray, rest)
  | '\x7b' :: rest => some (.openObject, rest)
  | '\x7d' :: rest => some (.closeObject, rest)
  | ',' :: rest => some (.comma, rest)
  | ':' :: rest => some (.colon, rest)
  | 'n' :: 'u' :: 'l' :: 'l' :: rest => some (.null, rest)
  | 't' :: 'r' :: 'u' :: 'e' :: rest =>
      some (.bool true, rest)
  | 'f' :: 'a' :: 'l' :: 's' :: 'e' :: rest =>
      some (.bool false, rest)
  | '"' :: rest =>
      (quoted? rest).map (fun result =>
        (.string result.1, result.2))
  | cs =>
      (numeral? cs).map (fun result =>
        (.number result.1.number?, result.2))

/-
  The tokens of the characters, put in front of the given
  ones in reverse. Every step takes a character, so as many
  steps as there are characters suffice.
-/
def tokensFrom? :
    Nat → List Token → List Char → Option (List Token)
  | _, before, [] => some before.reverse
  | 0, _, _ :: _ => none
  | fuel + 1, before, c :: rest =>
      if isSpace c then
        tokensFrom? fuel before rest
      else
        match token? (c :: rest) with
        | some (token, after) =>
            tokensFrom? fuel (token :: before) after
        | none => none

/- The tokens of a list of characters. -/
def tokens?
    (cs : List Char) : Option (List Token) :=
  tokensFrom? cs.length [] cs

end Json

end NotebookGrading
