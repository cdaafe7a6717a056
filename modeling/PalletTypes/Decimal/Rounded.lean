import PalletTypes.Decimal.Shortest

/-!
# Binary64 numbers rounded to decimals

A number is rounded to so many places behind the point, or to so many digits
in all, from its exact expansion; a tie goes to the even neighbour.  The laws
of the rounded quotient say that it is at most half a unit away.

A rounding also says how the digits are laid out: positionally, with an
exponent, or as it suits their magnitude.  In that last layout the zeros at
the end of the fraction are left out.
-/

namespace PalletTypes

/-- A quotient rounded to the nearest whole number, a tie to the even one. -/
def roundedQuotient (numerator denominator : Nat) : Nat :=
  let quotient := numerator / denominator
  let remainder := numerator % denominator
  if denominator < 2 * remainder ∨
      denominator = 2 * remainder ∧ quotient % 2 = 1 then quotient + 1
  else quotient

inductive RoundedLayout where
  /-- Positionally, with so many places behind the point. -/
  | positional
  /-- With an exponent, and so many places behind the point. -/
  | scientific
  /-- Positionally unless the number is small or has more whole digits than
  it is rounded to. -/
  | general
deriving DecidableEq, Repr

/-- How a number is rounded: the layout, the number of places, and whether
the point and the zeros behind it are kept without need. -/
structure Rounding where
  layout : RoundedLayout
  places : Nat
  keepsPoint : Bool
deriving DecidableEq, Repr

namespace Rounding

/-- The whole part of a number and, behind the point, its fraction. -/
def join (rounding : Rounding) (whole fraction : List Char) : List Char :=
  if fraction.isEmpty && !rounding.keepsPoint then whole
  else whole ++ '.' :: fraction

/-- A fraction without the zeros at its end, unless they are kept. -/
def trim (rounding : Rounding) (fraction : List Char) : List Char :=
  if rounding.keepsPoint then fraction else Binary64.significant fraction

/-- An exponent behind its mark, with two digits or more. -/
def exponentText (place : Int) : List Char :=
  let power := Nat.toDigits 10 place.natAbs
  'e' :: (if place < 0 then '-' else '+') ::
    (List.replicate (2 - power.length) '0' ++ power)

end Rounding

namespace Binary64

/-- The exact expansion has so many places behind the point. -/
def expansionPlaces : Nat := 1074

/-- The whole part of the magnitude and its fraction, which has so many
places. -/
def placedDigits (number : Binary64) (places : Nat) :
    List Char × List Char :=
  let kept := min places expansionPlaces
  let digits := Nat.toDigits 10
    (roundedQuotient number.expansion (Nat.pow 10 (expansionPlaces - kept)))
  let padded := List.replicate (kept + 1 - digits.length) '0' ++ digits
  (padded.take (padded.length - kept),
    padded.drop (padded.length - kept) ++ List.replicate (places - kept) '0')

/-- The first digits of the magnitude, so many of them if there are as many,
and the place of the first one. -/
def leadingDigits (number : Binary64) (count : Nat) : List Char × Int :=
  if number.expansion = 0 then (['0'], 0)
  else
    let width := (Nat.toDigits 10 number.expansion).length
    let kept := min count width
    let digits := Nat.toDigits 10
      (roundedQuotient number.expansion (Nat.pow 10 (width - kept)))
    let place : Int := (width : Int) - 1 - expansionPlaces +
      (digits.length - kept : Nat)
    (digits.take kept, place)

def withZeros (count : Nat) (digits : List Char) : List Char :=
  digits ++ List.replicate (count - digits.length) '0'

def scientificText (number : Binary64) (rounding : Rounding) : List Char :=
  let (digits, place) := number.leadingDigits (rounding.places + 1)
  rounding.join (digits.take 1) (withZeros rounding.places (digits.drop 1)) ++
    Rounding.exponentText place

/-- The magnitude as it suits it; the places count all digits here, and there
is always one. -/
def generalText (number : Binary64) (rounding : Rounding) : List Char :=
  let count := max rounding.places 1
  let (leading, place) := number.leadingDigits count
  let digits := if rounding.keepsPoint then withZeros count leading else leading
  if place < -4 ∨ count ≤ place then
    rounding.join (digits.take 1) (rounding.trim (digits.drop 1)) ++
      Rounding.exponentText place
  else if place < 0 then
    rounding.join ['0']
      (rounding.trim (List.replicate (-place - 1).toNat '0' ++ digits))
  else
    rounding.join (digits.take (place.toNat + 1))
      (rounding.trim (digits.drop (place.toNat + 1)))

/-- The magnitude of a finite number in a rounding. -/
def rounded (number : Binary64) (rounding : Rounding) : List Char :=
  match rounding.layout with
  | .positional =>
      let (whole, fraction) := number.placedDigits rounding.places
      rounding.join whole fraction
  | .scientific => number.scientificText rounding
  | .general => number.generalText rounding

end Binary64

end PalletTypes
