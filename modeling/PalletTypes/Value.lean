import PalletTypes.Binary64
import PalletTypes.Text

/-!
# Definition values

A type definition is any structured value: an alias is a text, an enumeration
or a record a mapping, a tuple a list.  The entries of a mapping are ordered.
In-memory values may hold what a file cannot: integers of any size, numbers
that are not finite, and texts with lone surrogates.
-/

namespace PalletTypes

/-- A structured value. -/
inductive Value where
  | null
  | bool (truth : Bool)
  | int (number : Int)
  | float (number : Binary64)
  | text (content : Text)
  | list (items : List Value)
  | mapping (entries : List (Text × Value))

/-- The kinds of values, as error messages tell them apart. -/
inductive ValueKind where
  | null
  | bool
  | int
  | float
  | text
  | list
  | mapping
deriving DecidableEq, Repr

namespace ValueKind

/-- The word for a kind in error messages. -/
def name : ValueKind → String
  | .null => "NoneType"
  | .bool => "bool"
  | .int => "int"
  | .float => "float"
  | .text => "str"
  | .list => "list"
  | .mapping => "dict"

end ValueKind

namespace Value

def kind : Value → ValueKind
  | .null => .null
  | .bool _ => .bool
  | .int _ => .int
  | .float _ => .float
  | .text _ => .text
  | .list _ => .list
  | .mapping _ => .mapping

/-- Whether a value counts as "on" for a switch: everything does except null,
false, zero and what is empty. -/
def isTruthy : Value → Bool
  | .null => false
  | .bool truth => truth
  | .int number => number != 0
  | .float number => number.rank.val != 0
  | .text content => !content.isEmpty
  | .list items => !items.isEmpty
  | .mapping entries => !entries.isEmpty

end Value

/-- An integer that a word of 64 bits holds, be it signed or unsigned. -/
def isWordInteger (number : Int) : Bool :=
  -0x8000000000000000 ≤ number && number ≤ 0xFFFFFFFFFFFFFFFF

/-- An integer that a signed word of 64 bits holds. -/
def isSignedWord (number : Int) : Bool :=
  -0x8000000000000000 ≤ number && number ≤ 0x7FFFFFFFFFFFFFFF

/-- An integer that a signed word of 32 bits holds. -/
def isSignedHalfWord (number : Int) : Bool :=
  -0x80000000 ≤ number && number ≤ 0x7FFFFFFF

end PalletTypes
