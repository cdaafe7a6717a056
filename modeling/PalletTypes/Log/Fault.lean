import PalletTypes.Decimal
import PalletTypes.Text.Quoted
import PalletTypes.Value

/-!
# Faults of a log line

A line cannot be written if the arguments of its message do not fit, if its
time is too far away for the clock or for the calendar, if the template of the
line asks for what there is not, or if the place in a source that its failure
tells is no place.
-/

namespace PalletTypes.Log

inductive Fault where
  | unusedArgument
  | missingArgument
  | notNumber (conversion : CodePoint) (kind : ValueKind)
  | notInteger (conversion : CodePoint) (kind : ValueKind)
  | notReal (kind : ValueKind)
  | notCharacter
  | noCharacter
  | notAmount
  | widthTooLarge
  | precisionTooLarge
  /-- An argument that is a width does not fit into a word. -/
  | wideArgument
  /-- An argument that is a precision does not fit into half a word. -/
  | preciseArgument
  | digitsBeyondLimit
  | beyondMemory
  /-- A directive names a field, but there are only arguments. -/
  | notMapping
  | unknownField (name : Text)
  | incomplete
  | incompleteName
  /-- No directive ends with this code point, which stands at the index. -/
  | unsupported (conversion : CodePoint) (index : Nat)
  | noField (template : Text)
  | infinite
  | undefinedNumber
  | beyondReals
  | undefinedTime
  | beyondClock
  | beyondCalendar
  /-- The year of a time is too great to be written. -/
  | beyondYears
  /-- The line of a source is no text. -/
  | notLine (kind : ValueKind)
  /-- A position in a line cannot be compared with what is no position. -/
  | notHashable (kind : ValueKind)
  | noNextPosition (kind : ValueKind)
  | noPreviousPosition (kind : ValueKind)
  | fractionalPosition
  | fractionalCount
  | countBeyondWord
deriving DecidableEq, Repr

namespace Fault

/-- A code point as a message about it shows it. -/
def conversionText (conversion : CodePoint) : Text :=
  if 31 ≤ conversion.number ∧ conversion.number ≤ 126 then [conversion]
  else "?"

/-- The message about a conversion that asks for another kind of value. -/
def wantedText (conversion : CodePoint) (wanted : String) (kind : ValueKind) :
    Text :=
  "%" ++ [conversion] ++ " format: " ++ wanted ++ " is required, not " ++
    kind.name

/-- The message about an operation that a value does not take part in. -/
def operandText (operation : String) (kind : ValueKind) : Text :=
  "unsupported operand type(s) for " ++ operation ++ ": '" ++ kind.name ++
    "' and 'int'"

/-- The message about a value to which nothing can be added.  A text and a
list can be joined with their like. -/
def additionText (kind : ValueKind) : Text :=
  if kind = .text ∨ kind = .list then
    "can only concatenate " ++ kind.name ++ " (not \"int\") to " ++ kind.name
  else operandText "+" kind

def message : Fault → Text
  | .unusedArgument => "not all arguments converted during string formatting"
  | .missingArgument => "not enough arguments for format string"
  | .notNumber conversion kind => wantedText conversion "a real number" kind
  | .notInteger conversion kind => wantedText conversion "an integer" kind
  | .notReal kind => "must be real number, not " ++ kind.name
  | .notCharacter => "%c requires int or char"
  | .noCharacter => "%c arg not in range(0x110000)"
  | .notAmount => "* wants int"
  | .widthTooLarge => "width too big"
  | .precisionTooLarge => "precision too big"
  | .wideArgument => "width argument too large"
  | .preciseArgument => "precision argument too large"
  | .digitsBeyondLimit => "precision too large"
  | .beyondMemory => []
  | .notMapping => "format requires a mapping"
  | .unknownField name =>
      "Formatting field not found in record: " ++ name.quoted
  | .incomplete => "incomplete format"
  | .incompleteName => "incomplete format key"
  | .unsupported conversion index =>
      "unsupported format character '" ++ conversionText conversion ++
        "' (0x" ++ Text.ofChars (Nat.toDigits 16 conversion.number) ++
        ") at index " ++ Text.ofNat index
  | .noField template => "Invalid format '" ++ template ++ "' for '%' style"
  | .infinite => "cannot convert float infinity to integer"
  | .undefinedNumber => "cannot convert float NaN to integer"
  | .beyondReals => "int too large to convert to float"
  | .undefinedTime => "Invalid value NaN (not a number)"
  | .beyondClock => "timestamp out of range for platform time_t"
  | .beyondCalendar => "[Errno 75] Value too large for defined data type"
  | .beyondYears => "signed integer is greater than maximum"
  | .notLine kind => "'" ++ kind.name ++ "' object has no attribute 'rstrip'"
  | .notHashable kind => "unhashable type: '" ++ kind.name ++ "'"
  | .noNextPosition kind => additionText kind
  | .noPreviousPosition kind => operandText "-" kind
  | .fractionalPosition =>
      "slice indices must be integers or None or have an __index__ method"
  | .fractionalCount => "can't multiply sequence by non-int of type 'float'"
  | .countBeyondWord => "cannot fit 'int' into an index-sized integer"

def className : Fault → String
  | .unknownField _ | .incomplete | .incompleteName | .unsupported _ _
  | .noField _ | .undefinedNumber | .undefinedTime | .widthTooLarge
  | .precisionTooLarge => "ValueError"
  | .infinite | .beyondReals | .beyondClock | .beyondYears | .noCharacter
  | .wideArgument | .preciseArgument | .digitsBeyondLimit
  | .countBeyondWord => "OverflowError"
  | .beyondCalendar => "OSError"
  | .beyondMemory => "MemoryError"
  | .notLine _ => "AttributeError"
  | .unusedArgument | .missingArgument | .notNumber _ _ | .notInteger _ _
  | .notReal _ | .notCharacter | .notAmount | .notMapping | .notHashable _
  | .noNextPosition _ | .noPreviousPosition _ | .fractionalPosition
  | .fractionalCount => "TypeError"

end Fault

/-- No text is that long. -/
def lengthLimit : Nat := 0x10000000000

def wholePart (number : Binary64) : Except Fault Int :=
  if number.IsFinite then .ok number.truncate
  else if number.isUndefined then .error .undefinedNumber
  else .error .infinite

/-- The floating-point number nearest to an integer. -/
def realOfInt (number : Int) : Except Fault Binary64 :=
  match (Decimal.ofInt number).nearest? with
  | some nearest => .ok nearest
  | none => .error .beyondReals

end PalletTypes.Log
