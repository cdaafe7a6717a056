import PalletTypes.Decimal.Shortest
import PalletTypes.Text.Quoted
import PalletTypes.Value

/-!
# Values in messages

A message shows a text as it is, and any other value by its spelling: the
texts inside of it are quoted, items and entries are separated by commas.
-/

namespace PalletTypes.Value

/-- Messages show floating-point numbers positionally from `10 ^ -4` to
`10 ^ 15`, and exponents with two digits or more. -/
def numberStyle : NumberStyle :=
  { lowest := -4, highest := 15, exponentWidth := 2 }

def floatSpelling (number : Binary64) : Text :=
  if number.IsFinite then Text.ofChars (Binary64.text numberStyle number)
  else if number.isUndefined then "nan"
  else if number.negative then "-inf"
  else "inf"

mutual

def spelling : Value → Text
  | .null => "None"
  | .bool true => "True"
  | .bool false => "False"
  | .int number => Text.ofInt number
  | .float number => floatSpelling number
  | .text content => content.quoted
  | .list items => "[" ++ spellItems true items ++ "]"
  | .mapping entries => "\x7b" ++ spellEntries true entries ++ "\x7d"

/-- The spellings of items, with commas between them. -/
def spellItems (isFirst : Bool) : List Value → Text
  | [] => []
  | item :: items =>
      (if isFirst then [] else Text.ofString ", ") ++ spelling item ++
        spellItems false items

/-- The spellings of entries, with commas between them. -/
def spellEntries (isFirst : Bool) : List (Text × Value) → Text
  | [] => []
  | (key, value) :: entries =>
      (if isFirst then [] else Text.ofString ", ") ++ key.quoted ++ ": " ++
        spelling value ++ spellEntries false entries

end

/-- A value as a message shows it. -/
def shown : Value → Text
  | .text content => content
  | value => value.spelling

/-- The spelling of a value in ASCII. -/
def asciiSpelling (value : Value) : Text :=
  value.spelling.flatMap Text.asciiPoint

end PalletTypes.Value
