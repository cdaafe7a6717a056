import PalletTypes.Decimal.Rounded
import PalletTypes.Log.Fault
import PalletTypes.Value.Shown

/-!
# Conversions

A conversion makes text of a value: it shows or spells any value, writes a
number without its fraction, an integer in another base or a number rounded to
decimals, or gives a character.  What it writes is laid out in a form: a text
is cut to the precision, and everything is brought to the width, a number
with zeros if they are asked for.
-/

namespace PalletTypes.Log

/-- What a directive makes of its value. -/
inductive Conversion where
  | shown
  | spelled
  | escaped
  | decimal
  | octal
  | hexadecimal
  | rounded (layout : RoundedLayout)
  | character
deriving DecidableEq, Repr

/-- The conversion of a letter, and whether its own letters are capital. -/
def Conversion.ofPoint? : CodePoint → Option (Conversion × Bool)
  | .scalar 's' => some (.shown, false)
  | .scalar 'r' => some (.spelled, false)
  | .scalar 'a' => some (.escaped, false)
  | .scalar 'd' => some (.decimal, false)
  | .scalar 'i' => some (.decimal, false)
  | .scalar 'u' => some (.decimal, false)
  | .scalar 'o' => some (.octal, false)
  | .scalar 'x' => some (.hexadecimal, false)
  | .scalar 'X' => some (.hexadecimal, true)
  | .scalar 'f' => some (.rounded .positional, false)
  | .scalar 'F' => some (.rounded .positional, true)
  | .scalar 'e' => some (.rounded .scientific, false)
  | .scalar 'E' => some (.rounded .scientific, true)
  | .scalar 'g' => some (.rounded .general, false)
  | .scalar 'G' => some (.rounded .general, true)
  | .scalar 'c' => some (.character, false)
  | _ => none

structure Form where
  alternate : Bool
  zeros : Bool
  blanksBehind : Bool
  /-- What stands in front of a number that is not negative. -/
  sign : Text
  width : Nat
  precision : Option Nat
deriving DecidableEq, Repr

/-- A written value; a number has a head, its sign and the mark of its base,
that goes in front of the zeros. -/
inductive Written where
  | text (content : Text)
  | number (head digits : Text)
deriving DecidableEq, Repr

namespace Form

def cut (form : Form) (text : Text) : Text :=
  match form.precision with
  | none => text
  | some precision => text.take precision

def head (form : Form) (isNegative : Bool) (mark : Text) : Text :=
  (if isNegative then Text.ofString "-" else form.sign) ++ mark

/-- Integers are written with so many digits at most. -/
def digitLimit : Nat := 0x7FFFFFFC

/-- An integer in a base, with zeros up to the precision. -/
def integer (form : Form) (base : Nat) (mark : Text) (isCapital : Bool)
    (number : Int) : Except Fault Written :=
  let precision := form.precision.getD 0
  if digitLimit < precision then .error .digitsBeyondLimit
  else
    let digits := Nat.toDigits base number.natAbs
    let zeros := List.replicate (precision - digits.length) '0'
    let capital := if isCapital then digits.map Char.toUpper else digits
    .ok (.number (form.head (decide (number < 0)) mark)
      (Text.ofChars (zeros ++ capital)))

def mark (form : Form) (letter : CodePoint) : Text :=
  if form.alternate then [.scalar '0', letter] else []

/-- A floating-point number, with six places unless a precision is given. -/
def real (form : Form) (layout : RoundedLayout) (isCapital : Bool)
    (number : Binary64) : Written :=
  let magnitude :=
    if number.IsFinite then
      number.rounded ⟨layout, form.precision.getD 6, form.alternate⟩
    else if number.isUndefined then ['n', 'a', 'n']
    else ['i', 'n', 'f']
  let capital := if isCapital then magnitude.map Char.toUpper else magnitude
  .number (form.head (number.negative && !number.isUndefined) [])
    (Text.ofChars capital)

def align (form : Form) : Written → Text
  | .text content =>
      if form.blanksBehind then content.padded form.width
      else content.filling form.width ++ content
  | .number head digits =>
      let content := head ++ digits
      if form.blanksBehind then content.padded form.width
      else if form.zeros then
        head ++ List.replicate (form.width - content.length) (.scalar '0') ++
          digits
      else content.filling form.width ++ content

end Form

/-- The number that a conversion without fraction makes of a value. -/
def wholeNumber (letter : CodePoint) : Value → Except Fault Int
  | .bool truth => .ok truth.toInt
  | .int number => .ok number
  | .float number => wholePart number
  | value => .error (.notNumber letter value.kind)

/-- The number that a conversion to another base makes of a value. -/
def integerNumber (letter : CodePoint) : Value → Except Fault Int
  | .bool truth => .ok truth.toInt
  | .int number => .ok number
  | value => .error (.notInteger letter value.kind)

/-- The number that a conversion to decimals makes of a value. -/
def realNumber : Value → Except Fault Binary64
  | .bool truth => realOfInt truth.toInt
  | .int number => realOfInt number
  | .float number => .ok number
  | value => .error (.notReal value.kind)

def pointOfInt (number : Int) : Except Fault CodePoint :=
  if 0 ≤ number ∧ number < 0x110000 then .ok (.ofNumber number.toNat)
  else .error .noCharacter

/-- The code point that a value gives: the only one of a text, or the one with
this number. -/
def characterOf : Value → Except Fault CodePoint
  | .text [point] => .ok point
  | .bool truth => pointOfInt truth.toInt
  | .int number => pointOfInt number
  | _ => .error .notCharacter

namespace Form

/-- What a conversion, given by its letter too, writes for a value. -/
def write (form : Form) (conversion : Conversion) (isCapital : Bool)
    (letter : CodePoint) (value : Value) : Except Fault Written :=
  match conversion with
  | .shown => .ok (.text (form.cut value.shown))
  | .spelled => .ok (.text (form.cut value.spelling))
  | .escaped => .ok (.text (form.cut value.asciiSpelling))
  | .decimal => wholeNumber letter value >>= form.integer 10 [] false
  | .octal =>
      integerNumber letter value >>= form.integer 8 (form.mark letter) false
  | .hexadecimal =>
      integerNumber letter value >>=
        form.integer 16 (form.mark letter) isCapital
  | .rounded layout => (realNumber value).map (form.real layout isCapital)
  | .character => (characterOf value).map fun point => .text [point]

/-- The text that a letter, which stands at an index, makes of a value. -/
def convert (form : Form) (letter : CodePoint) (index : Nat) (value : Value) :
    Except Fault Text := do
  match Conversion.ofPoint? letter with
  | none => .error (.unsupported letter index)
  | some (conversion, isCapital) =>
      let written ← form.write conversion isCapital letter value
      if lengthLimit ≤ form.width then .error .beyondMemory
      else .ok (form.align written)

end Form

end PalletTypes.Log
