import PalletTypes.Numeral

/-!
# The shortest text of a binary64 number

Among the decimals that are read back as a number, the one with the fewest
digits stands for it; of two with equally few the nearer, and of two equally
near the one whose last digit is even.  On each grid of decimals with a given
count of digits only the two neighbours of the number can be meant, and a
neighbour is taken if its text is read back as the number.

Where the digits are laid out positionally and how an exponent is written is
up to a style.
-/

namespace PalletTypes

/-- How digits are laid out.  They are written positionally if the place of the
first one is between `lowest` and `highest`, and with an exponent of at least
`exponentWidth` digits otherwise. -/
structure NumberStyle where
  lowest : Int
  highest : Int
  exponentWidth : Nat
deriving DecidableEq, Repr

namespace Binary64

/-- The exact magnitude is this whole number times `10 ^ -1074`. -/
def expansion (number : Binary64) : Nat := units number.rank * Nat.pow 5 1074

def significant (digits : List Char) : List Char :=
  (digits.reverse.dropWhile (· = '0')).reverse

/-- Digits with the first one at place `10 ^ place`, written positionally. -/
def positional (digits : List Char) (place : Int) : List Char :=
  if place < 0 then
    ['0', '.'] ++ List.replicate (-place - 1).toNat '0' ++ digits
  else
    let whole := place.toNat + 1
    if digits.length ≤ whole then
      digits ++ List.replicate (whole - digits.length) '0' ++ ['.', '0']
    else
      digits.take whole ++ ['.'] ++ digits.drop whole

/-- Digits with the first one at place `10 ^ place`, written with an exponent of
at least so many digits. -/
def scientific (exponentWidth : Nat) (digits : List Char) (place : Int) :
    List Char :=
  let mantissa :=
    match digits with
    | first :: second :: rest => first :: '.' :: second :: rest
    | short => short
  let mark := if place < 0 then ['e', '-'] else ['e', '+']
  let power := Nat.toDigits 10 place.natAbs
  mantissa ++ mark ++ List.replicate (exponentWidth - power.length) '0' ++ power

/-- The number `digits * 10 ^ exponent` in a style. -/
def layout (style : NumberStyle) (digits : Nat) (exponent : Int) : List Char :=
  let written := Nat.toDigits 10 digits
  let place : Int := exponent + (written.length - 1 : Nat)
  if style.lowest ≤ place ∧ place ≤ style.highest then
    positional (significant written) place
  else scientific style.exponentWidth (significant written) place

def signed (number : Binary64) (magnitude : List Char) : List Char :=
  if number.negative then '-' :: magnitude else magnitude

/-- The number that a numeral is read as. -/
def ofChars? (chars : List Char) : Option Binary64 :=
  (Numeral.ofChars? chars).bind fun numeral => numeral.decimal.nearest?

/-- The text that stands for the number among the decimals whose last digit is
`dropped` places above the last one of the exact expansion. -/
def onGrid? (style : NumberStyle) (number : Binary64) (dropped : Nat) :
    Option (List Char) :=
  let step := Nat.pow 10 dropped
  let exponent : Int := (dropped : Int) - 1074
  let quotient := number.expansion / step
  let remainder := number.expansion % step
  let lower := number.signed (layout style quotient exponent)
  let upper := number.signed (layout style (quotient + 1) exponent)
  if ofChars? lower = some number then
    if ofChars? upper = some number ∧
        (step < 2 * remainder ∨ step = 2 * remainder ∧ quotient % 2 = 1) then
      some upper
    else
      some lower
  else if ofChars? upper = some number then some upper
  else none

/-- The exact expansion as an unscaled whole number with its exponent. -/
def exactText (number : Binary64) : List Char :=
  number.signed (Nat.toDigits 10 number.expansion ++ "e-1074".toList)

/-- The text of a finite number that is not zero.  Seventeen digits are always
enough; the exact expansion closes the search. -/
def shortest (style : NumberStyle) (number : Binary64) : List Char :=
  let width := (Nat.toDigits 10 number.expansion).length
  let found := (List.range 17).findSome? fun count =>
    if count < width then onGrid? style number (width - 1 - count)
    else none
  found.getD number.exactText

def text (style : NumberStyle) (number : Binary64) : List Char :=
  if number.rank.val = 0 then number.signed ['0', '.', '0']
  else shortest style number

end Binary64

end PalletTypes
