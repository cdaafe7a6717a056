import PalletTypes.Decimal.Shortest
import PalletTypes.Json.Quoted
import PalletTypes.TypeTable

/-!
# Writing a document

A document is indented by two spaces for each open container, every item and
entry on a line of its own; an empty container is written without a line
break.  Numbers that are not finite are written as null.  The writer walks
the value in document order and stops at the first defect: an integer that no
word holds, a text with a lone surrogate, or a container opened inside 254
others.
-/

namespace PalletTypes.Json

/-- The deepest nesting of containers that the writer accepts. -/
def writingDepth : Nat := 254

/-- What keeps a value from being written. -/
inductive Defect where
  | integerRange
  | depth
  | surrogate
deriving DecidableEq, Repr

namespace Defect

def message : Defect → String
  | .integerRange => "Integer exceeds 64-bit range"
  | .depth => "Recursion limit reached"
  | .surrogate => "str is not valid UTF-8: surrogates not allowed"

end Defect

def appendChars (written : String) (chars : List Char) : String :=
  chars.foldl String.push written

def writePoints (written : String) : Text → Except Defect String
  | [] => .ok written
  | .scalar char :: rest =>
      writePoints (appendChars written (quoteChar char)) rest
  | .surrogate _ :: _ => .error .surrogate

def writeText (text : Text) (written : String) : Except Defect String :=
  match writePoints (written.push '"') text with
  | .error defect => .error defect
  | .ok written => .ok (written.push '"')

/-- Write an integer of at most 64 bits. -/
def writeInteger (number : Int) (written : String) : Except Defect String :=
  if isWordInteger number then
    let digits := Nat.toDigits 10 number.natAbs
    .ok (appendChars written (if number < 0 then '-' :: digits else digits))
  else .error .integerRange

/-- Floating-point numbers are written positionally from `10 ^ -5` to
`10 ^ 15`. -/
def numberStyle : NumberStyle :=
  { lowest := -5, highest := 15, exponentWidth := 1 }

def writeFloat (number : Binary64) (written : String) : String :=
  if number.IsFinite then appendChars written (Binary64.text numberStyle number)
  else written ++ "null"

/-- Start a line inside the given number of open containers. -/
def startLine (depth : Nat) (written : String) : String :=
  appendChars (written.push '\n') (List.replicate (2 * depth) ' ')

/-- End the line of an item unless it is the first one. -/
def separate (isFirst : Bool) (written : String) : String :=
  if isFirst then written else written.push ','

mutual

/-- Write a value inside the given number of open containers. -/
def writeValue (depth : Nat) : Value → String → Except Defect String
  | .null, written => .ok (written ++ "null")
  | .bool true, written => .ok (written ++ "true")
  | .bool false, written => .ok (written ++ "false")
  | .int number, written => writeInteger number written
  | .float number, written => .ok (writeFloat number written)
  | .text content, written => writeText content written
  | .list items, written =>
      if depth < writingDepth then
        match writeItems (depth + 1) true items (written.push '[') with
        | .error defect => .error defect
        | .ok written =>
            .ok ((if items.isEmpty then written
              else startLine depth written).push ']')
      else .error .depth
  | .mapping entries, written =>
      if depth < writingDepth then
        match writeEntries (depth + 1) true entries (written.push '\x7b') with
        | .error defect => .error defect
        | .ok written =>
            .ok ((if entries.isEmpty then written
              else startLine depth written).push '\x7d')
      else .error .depth

/-- Write the items of a list inside the given number of open containers. -/
def writeItems (depth : Nat) (isFirst : Bool) :
    List Value → String → Except Defect String
  | [], written => .ok written
  | item :: items, written =>
      match writeValue depth item
          (startLine depth (separate isFirst written)) with
      | .error defect => .error defect
      | .ok written => writeItems depth false items written

/-- Write the entries of a mapping inside the given number of open
containers. -/
def writeEntries (depth : Nat) (isFirst : Bool) :
    List (Text × Value) → String → Except Defect String
  | [], written => .ok written
  | (key, value) :: entries, written =>
      match writeText key (startLine depth (separate isFirst written)) with
      | .error defect => .error defect
      | .ok written =>
          match writeValue depth value (written ++ ": ") with
          | .error defect => .error defect
          | .ok written => writeEntries depth false entries written

end

def ofTable (table : TypeTable) : Except Defect String :=
  writeValue 0 table.toValue ""

end PalletTypes.Json
