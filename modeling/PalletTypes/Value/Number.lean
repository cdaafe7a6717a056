import PalletTypes.Numeral
import PalletTypes.Text.Blank
import PalletTypes.Text.Digit
import PalletTypes.Text.Quoted
import PalletTypes.Value

/-!
# Values as numbers

A number is given as a number or spelled by a text.  A spelling can have blanks
around it, a sign, digits of any script with single underscores between them,
a fraction and an exponent; infinity and what is no number have names.
-/

namespace PalletTypes

inductive NotNumber where
  | unreadable (spelling : Text)
  /-- The integer is beyond all floating-point numbers. -/
  | tooLarge
  /-- The value is neither a number nor a text. -/
  | otherKind (kind : ValueKind)

namespace NotNumber

def message : NotNumber → Text
  | .unreadable spelling =>
      "could not convert string to float: " ++ spelling.quoted
  | .tooLarge => "int too large to convert to float"
  | .otherKind kind =>
      "float() argument must be a string or a real number, not '" ++
        kind.name ++ "'"

def className : NotNumber → String
  | .unreadable _ => "ValueError"
  | .tooLarge => "OverflowError"
  | .otherKind _ => "TypeError"

end NotNumber

namespace Spelling

/-- The code point is a blank that can stand around a number; what separates
information is none. -/
def isMargin (point : CodePoint) : Bool :=
  Text.isBlankPoint point && !(0x1C ≤ point.number && point.number ≤ 0x1F)

/-- A text without the blanks around it. -/
def withoutMargins (text : Text) : Text :=
  ((text.dropWhile isMargin).reverse.dropWhile isMargin).reverse

/-- A character of a number: its digit, its small letter or its mark. -/
def character? (point : CodePoint) : Option Char :=
  match Text.decimalDigit? point, point with
  | some digit, _ => some digit.digitChar
  | none, .scalar char => some char.toLower
  | none, .surrogate _ => none

/-- Digits with single underscores between them, without these.  The first
argument says whether a digit must follow. -/
def digits? (awaited : Bool) : List Char → Option (List Char)
  | [] => if awaited then none else some []
  | char :: rest =>
      if char = '_' then if awaited then none else digits? true rest
      else if char.isDigit then (digits? false rest).map (char :: ·)
      else none

/-- Digits, or nothing. -/
def part? (chars : List Char) : Option (List Char) :=
  digits? (!chars.isEmpty) chars

def exponent? : List Char → Option (Bool × List Char)
  | '-' :: digits => (digits? true digits).map (true, ·)
  | '+' :: digits => (digits? true digits).map (false, ·)
  | digits => (digits? true digits).map (false, ·)

/-- A numeral without its sign.  A digit stands in front of the point or behind
it. -/
def numeral? (negative : Bool) (chars : List Char) : Option Numeral := do
  let (mantissa, scale) := Numeral.cutAt (· == 'e') chars
  let (whole, fraction) := Numeral.cutAt (· == '.') mantissa
  guard (!whole.isEmpty || fraction.any fun digits => !digits.isEmpty)
  return ⟨negative, ← part? whole, ← fraction.mapM part?,
    ← scale.mapM exponent?⟩

def unsigned? (negative : Bool) (chars : List Char) : Option Binary64 :=
  let name := String.ofList chars
  if name = "inf" ∨ name = "infinity" then some (.infinity negative)
  else if name = "nan" then some .undefined
  else (numeral? negative chars).map fun numeral => numeral.decimal.nearest

def number? (text : Text) : Option Binary64 := do
  match ← (withoutMargins text).mapM character? with
  | '-' :: rest => unsigned? true rest
  | '+' :: rest => unsigned? false rest
  | chars => unsigned? false chars

end Spelling

/-- The floating-point number that a value gives. -/
def Value.number : Value → Except NotNumber Binary64
  | .float number => .ok number
  | .bool truth => .ok (.ofInt truth.toInt)
  | .int number =>
      match (Decimal.ofInt number).nearest? with
      | some nearest => .ok nearest
      | none => .error .tooLarge
  | .text content =>
      match Spelling.number? content with
      | some number => .ok number
      | none => .error (.unreadable content)
  | value => .error (.otherKind value.kind)

end PalletTypes
