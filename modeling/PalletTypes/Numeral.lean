import PalletTypes.Decimal

/-!
# The grammar of numbers

A numeral is an optional minus sign, a whole part without a superfluous zero
in front, an optional fraction behind a point and an optional exponent behind
`e` or `E`.  It is cut at the exponent mark and at the point, and the pieces
are checked on their own.
-/

namespace PalletTypes

/-- The pieces of a numeral.  An exponent carries whether it is negative. -/
structure Numeral where
  negative : Bool
  whole : List Char
  fraction : Option (List Char)
  exponent : Option (Bool × List Char)
deriving DecidableEq, Repr

namespace Numeral

/-- One digit or more, and nothing else. -/
def isDigits (chars : List Char) : Bool :=
  !chars.isEmpty && chars.all Char.isDigit

/-- Digits that start with a zero only if that is the only digit. -/
def isWhole (chars : List Char) : Bool :=
  isDigits chars && (chars.head? != some '0' || chars.length == 1)

/-- The characters before the first that satisfies the test, and those after
it if there is one. -/
def cutAt (test : Char → Bool) (chars : List Char) :
    List Char × Option (List Char) :=
  (chars.takeWhile (fun char => !test char),
    (chars.dropWhile (fun char => !test char)).tail?)

/-- An exponent: an optional sign, then digits. -/
def exponent? : List Char → Option (Bool × List Char)
  | '-' :: digits => if isDigits digits then some (true, digits) else none
  | '+' :: digits => if isDigits digits then some (false, digits) else none
  | digits => if isDigits digits then some (false, digits) else none

def unsigned? (negative : Bool) (chars : List Char) : Option Numeral := do
  let (mantissa, exponentText) :=
    cutAt (fun char => char == 'e' || char == 'E') chars
  let (whole, fraction) := cutAt (· == '.') mantissa
  guard (isWhole whole && fraction.all isDigits)
  match exponentText with
  | none => pure ⟨negative, whole, fraction, none⟩
  | some text =>
      let exponent ← exponent? text
      pure ⟨negative, whole, fraction, some exponent⟩

def ofChars? : List Char → Option Numeral
  | '-' :: rest => unsigned? true rest
  | chars => unsigned? false chars

/-- Neither a fraction nor an exponent is written. -/
def isInteger (numeral : Numeral) : Bool :=
  numeral.fraction.isNone && numeral.exponent.isNone

def natOfDigits (digits : List Char) : Nat := Nat.ofDigitChars 10 digits 0

def integer (numeral : Numeral) : Int :=
  if numeral.negative then -(natOfDigits numeral.whole : Int)
  else natOfDigits numeral.whole

/-- The exponent that is written, zero if there is none. -/
def scale (numeral : Numeral) : Int :=
  match numeral.exponent with
  | none => 0
  | some (true, digits) => -(natOfDigits digits : Int)
  | some (false, digits) => natOfDigits digits

/-- The number that the numeral stands for. -/
def decimal (numeral : Numeral) : Decimal :=
  let fraction := numeral.fraction.getD []
  { negative := numeral.negative
    digits := natOfDigits (numeral.whole ++ fraction)
    exponent := numeral.scale - fraction.length }

end Numeral

end PalletTypes
