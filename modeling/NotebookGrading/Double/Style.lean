import NotebookGrading.Double.Shortest

/-
  Written forms of doubles.

  A style says when a number is written in positional
  notation, how an exponent is written otherwise, whether a
  whole number keeps a decimal point, and what stands for
  the values that are not numbers. The digits are always
  the fewest that read back.

  Key definitions include:
    * `Double.Style`
    * `Double.write`
    * `Double.answer`
    * `Double.plain`
    * `Double.document`
    * `Double.checksum`
-/

namespace NotebookGrading

namespace Double

------------------------------------------------------------
-- Styles
------------------------------------------------------------

/-
  A written form of doubles. Positional notation is used
  when the exponent of the leading digit lies between the
  two bounds.
-/
structure Style where
  lowest : Int
  highest : Int
  keepsPoint : Bool
  exponentPlus : Bool
  exponentWidth : Nat
  tie : Tie
  notNumber : String
deriving Repr

/- The digits of a number in base ten. -/
def decimalDigits
    (n : Nat) : List Char :=
  Nat.toDigits 10 n

/- Digits with the decimal point after a given position. -/
def positional
    (style : Style)
    (digits : List Char)
    (point : Int) : List Char :=
  if point ≤ 0 then
    ['0', '.'] ++
      List.replicate (-point).toNat '0' ++ digits
  else
    let whole := point.toNat
    if digits.length ≤ whole then
      digits ++
        List.replicate (whole - digits.length) '0' ++
        (if style.keepsPoint then ['.', '0'] else [])
    else
      digits.take whole ++ '.' :: digits.drop whole

/- The sign and the digits of an exponent. -/
def exponentText
    (style : Style)
    (exponent : Int) : List Char :=
  let digits := decimalDigits exponent.natAbs
  let padded :=
    List.replicate
      (style.exponentWidth - digits.length) '0' ++ digits
  if exponent < 0 then '-' :: padded
  else if style.exponentPlus then '+' :: padded
  else padded

/- Digits with an exponent for the leading digit. -/
def scientific
    (style : Style)
    (digits : List Char)
    (exponent : Int) : List Char :=
  let mantissa :=
    match digits with
    | [] => []
    | [d] => [d]
    | d :: rest => d :: '.' :: rest
  mantissa ++ 'e' :: exponentText style exponent

/- The written form of a finite magnitude. -/
def magnitude
    (style : Style)
    (b : Binary) : List Char :=
  if b.significand = 0 then
    positional style ['0'] 1
  else
    let d := Decimal.shortest style.tie b
    let digits := decimalDigits d.digits
    let lead : Int := digits.length + d.scale - 1
    if style.lowest ≤ lead && lead ≤ style.highest then
      positional style digits (lead + 1)
    else
      scientific style digits lead

/- The written form of a double. -/
def write
    (style : Style)
    (x : Float) : String :=
  if x.isNaN then
    style.notNumber
  else
    let b := Binary.ofFloat x
    let body :=
      if x.isFinite then
        magnitude style b
      else
        ['i', 'n', 'f']
    String.ofList (if b.negative then '-' :: body else body)

------------------------------------------------------------
-- The Styles In Use
------------------------------------------------------------

/-
  Scores in answers: positional from 1e-4 to below 1e16,
  always with a point or an exponent.
-/
def answerStyle : Style where
  lowest := -4
  highest := 15
  keepsPoint := true
  exponentPlus := false
  exponentWidth := 1
  tie := .up
  notNumber := "NaN"

/-
  Numbers inside messages: always positional, and a whole
  number without a point.
-/
def plainStyle : Style where
  lowest := -400
  highest := 400
  keepsPoint := false
  exponentPlus := false
  exponentWidth := 1
  tie := .up
  notNumber := "NaN"

/-
  Numbers in documents: positional from 1e-5 to below 1e16,
  exponents with their sign.
-/
def documentStyle : Style where
  lowest := -5
  highest := 15
  keepsPoint := true
  exponentPlus := true
  exponentWidth := 1
  tie := .even
  notNumber := "null"

/-
  Points in checksum texts: positional from 1e-4 to below
  1e16, exponents with their sign and at least two digits.
-/
def checksumStyle : Style where
  lowest := -4
  highest := 15
  keepsPoint := true
  exponentPlus := true
  exponentWidth := 2
  tie := .up
  notNumber := "nan"

def answer
    (x : Float) : String :=
  write answerStyle x

def plain
    (x : Float) : String :=
  write plainStyle x

def document
    (x : Float) : String :=
  write documentStyle x

def checksum
    (x : Float) : String :=
  write checksumStyle x

end Double

end NotebookGrading
