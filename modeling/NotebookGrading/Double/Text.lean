import NotebookGrading.Text.Digit

/-
  Reading a double from a decimal text.

  The text is an optional sign followed by one of the words
  inf, infinity and nan in any case, or by digits with an
  optional decimal point and an optional exponent. At least
  one digit stands before or after the point and at least
  one in an exponent. The number is rounded to the nearest
  double, ties to even.

  Key definitions include:
    * `Double.ofText?`
    * `Double.ofDecimal`
    * `Double.infinity`
    * `Double.notANumber`
-/

namespace NotebookGrading

namespace Double

------------------------------------------------------------
-- Values
------------------------------------------------------------

def infinity : Float :=
  Float.ofBits 0x7FF0000000000000

def notANumber : Float :=
  Float.ofBits 0x7FF8000000000000

/- The double nearest to digits · 10 ^ scale. -/
def ofDecimal
    (digits : Nat)
    (scale : Int) : Float :=
  match scale with
  | .ofNat up => Float.ofScientific digits false up
  | .negSucc down =>
      Float.ofScientific digits true (down + 1)

/- The double nearest to a whole number. -/
def ofInt : Int → Float
  | .ofNat n => ofDecimal n 0
  | .negSucc n => -ofDecimal (n + 1) 0

------------------------------------------------------------
-- The Parts Of A Decimal Text
------------------------------------------------------------

/- The sign in front of a text and what follows it. -/
def takeSign :
    List Char → Bool × List Char
  | '-' :: rest => (true, rest)
  | '+' :: rest => (false, rest)
  | cs => (false, cs)

/- The leading ASCII digits and what follows them. -/
def takeDigits
    (cs : List Char) : List Char × List Char :=
  (cs.takeWhile Text.isAsciiDigit,
    cs.dropWhile Text.isAsciiDigit)

/- The digits after a decimal point, if there is one. -/
def takeFraction :
    List Char → List Char × List Char
  | '.' :: rest => takeDigits rest
  | cs => ([], cs)

/- The exponent that makes up all of the characters. -/
def exponent? :
    List Char → Option Int
  | [] => some 0
  | c :: rest =>
      if c = 'e' || c = 'E' then
        let (negative, unsigned) := takeSign rest
        let (digits, after) := takeDigits unsigned
        if digits.isEmpty || !after.isEmpty then
          none
        else
          let size : Int := Text.digitsValue digits
          some (if negative then -size else size)
      else
        none

/- The value of an unsigned decimal. -/
def unsigned?
    (cs : List Char) : Option Float :=
  let (whole, afterWhole) := takeDigits cs
  let (fraction, afterFraction) := takeFraction afterWhole
  if whole.isEmpty && fraction.isEmpty then
    none
  else
    (exponent? afterFraction).map (fun exponent =>
      ofDecimal
        (Text.digitsValue (whole ++ fraction))
        (exponent - fraction.length))

/- The value of one of the words for special numbers. -/
def word?
    (cs : List Char) : Option Float :=
  let lowered := cs.map Char.toLower
  if lowered = ['i', 'n', 'f'] then
    some infinity
  else if lowered = "infinity".toList then
    some infinity
  else if lowered = ['n', 'a', 'n'] then
    some notANumber
  else
    none

/- The double that a list of characters spells. -/
def ofChars?
    (cs : List Char) : Option Float :=
  let (negative, unsigned) := takeSign cs
  let value :=
    match word? unsigned with
    | some x => some x
    | none => unsigned? unsigned
  value.map (fun x => if negative then -x else x)

/- The double that a text spells. -/
def ofText?
    (text : String) : Option Float :=
  ofChars? text.toList

end Double

end NotebookGrading
