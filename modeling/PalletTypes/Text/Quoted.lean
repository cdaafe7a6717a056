import PalletTypes.Text
import PalletTypes.Text.Printable

/-!
# Quoted texts in messages

Messages show a text between apostrophes, or between quotes if it holds an
apostrophe and no quote.  The mark around the text, the backslash and every
code point that is not printable are escaped; a surrogate never is printable.
-/

namespace PalletTypes.Text

/-- A number in hexadecimal digits, padded with zeros to a width. -/
def hexPadded (width number : Nat) : List Char :=
  let digits := Nat.toDigits 16 number
  List.replicate (width - digits.length) '0' ++ digits

def numericEscape (number : Nat) : List Char :=
  if number < 0x100 then '\\' :: 'x' :: hexPadded 2 number
  else if number < 0x10000 then '\\' :: 'u' :: hexPadded 4 number
  else '\\' :: 'U' :: hexPadded 8 number

def quotedPoint (mark : Char) : CodePoint → List Char
  | .surrogate offset => numericEscape (CodePoint.surrogate offset).number
  | .scalar char =>
      if char = mark ∨ char = '\\' then ['\\', char]
      else if char = '\t' then ['\\', 't']
      else if char = '\n' then ['\\', 'n']
      else if char = '\r' then ['\\', 'r']
      else if isPrintable char then [char]
      else numericEscape char.toNat

def quotingMark (text : Text) : Char :=
  if text.contains (.scalar '\'') && !text.contains (.scalar '"') then '"'
  else '\''

def quoted (text : Text) : Text :=
  let mark := text.quotingMark
  ofChars (mark :: text.flatMap (quotedPoint mark) ++ [mark])

/-- A code point as it is shown in ASCII: beyond that by its escape. -/
def asciiPoint (point : CodePoint) : Text :=
  if point.number < 0x80 then [point] else ofChars (numericEscape point.number)

/-- A code point as a console shows it: a surrogate by its escape. -/
def printedPoint : CodePoint → List Char
  | .scalar char => [char]
  | .surrogate offset => numericEscape (CodePoint.surrogate offset).number

/-- A text as a console shows it. -/
def printed (text : Text) : String := String.ofList (text.flatMap printedPoint)

/-- A list of texts, each between marks. -/
def quotedList (texts : List Text) : Text :=
  "[" ++ List.intercalate (ofString ", ") (texts.map quoted) ++ "]"

end PalletTypes.Text
