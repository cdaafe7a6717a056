import PalletTypes.Entries
import PalletTypes.Json.Lexeme
import PalletTypes.Json.Quoted
import PalletTypes.Numeral
import PalletTypes.TypeTable

/-!
# Reading a document

The reader takes one lexeme at a time.  It keeps a stack with a frame for each
container that is open; the frame says what may come next.  A finished value
goes into the top frame, a closing mark turns the top frame into a value for
the frame below it.  The stack holds 1024 frames at most.  In a mapping with a
repeated key the key keeps its first place and takes its last value.
-/

namespace PalletTypes.Json

/-- The deepest nesting of containers that the reader accepts. -/
def readingDepth : Nat := 1024

/-- An open container and what it waits for.  Items are kept last first. -/
inductive Frame where
  /-- A list just opened: an item or the end. -/
  | listStart
  /-- After a comma: an item. -/
  | listItem (items : List Value)
  /-- After an item: a comma or the end. -/
  | listRest (items : List Value)
  /-- A mapping just opened: a key or the end. -/
  | mappingStart
  /-- After a comma: a key. -/
  | mappingKey (entries : List (Text × Value))
  /-- After a key: the colon. -/
  | mappingColon (entries : List (Text × Value)) (key : Text)
  /-- After the colon: the value of the key. -/
  | mappingValue (entries : List (Text × Value)) (key : Text)
  /-- After an entry: a comma or the end. -/
  | mappingRest (entries : List (Text × Value))

/-- A reader: the open containers, innermost first, and the finished document
once there is one. -/
structure Reader where
  frames : List Frame
  document : Option Value

namespace Frame

def accept? (value : Value) : Frame → Option Frame
  | .listStart => some (.listRest [value])
  | .listItem items => some (.listRest (value :: items))
  | .mappingValue entries key =>
      some (.mappingRest (Entries.put key value entries))
  | _ => none

def acceptKey? (key : Text) : Frame → Option Frame
  | .mappingStart => some (.mappingColon [] key)
  | .mappingKey entries => some (.mappingColon entries key)
  | _ => none

def takesValue : Frame → Bool
  | .listStart => true
  | .listItem _ => true
  | .mappingValue _ _ => true
  | _ => false

/-- The container, if it may end here with this mark. -/
def close? : Mark → Frame → Option Value
  | .closeList, .listStart => some (.list [])
  | .closeList, .listRest items => some (.list items.reverse)
  | .closeMapping, .mappingStart => some (.mapping [])
  | .closeMapping, .mappingRest entries => some (.mapping entries)
  | _, _ => none

/-- The frame after a comma or a colon. -/
def separate? : Mark → Frame → Option Frame
  | .comma, .listRest items => some (.listItem items)
  | .comma, .mappingRest entries => some (.mappingKey entries)
  | .colon, .mappingColon entries key => some (.mappingValue entries key)
  | _, _ => none

end Frame

/-- The value of a numeral, unless it rounds to infinity.  What is no integer of
a word is read as a floating-point number. -/
def numeralValue? (numeral : Numeral) : Option Value :=
  if numeral.isInteger && isWordInteger numeral.integer then
    some (.int numeral.integer)
  else numeral.decimal.nearest?.map .float

def wordValue? (chars : List Char) : Option Value :=
  if chars = ['n', 'u', 'l', 'l'] then some .null
  else if chars = ['t', 'r', 'u', 'e'] then some (.bool true)
  else if chars = ['f', 'a', 'l', 's', 'e'] then some (.bool false)
  else none

def plainValue? : Lexeme → Option Value
  | .number chars => (Numeral.ofChars? chars).bind numeralValue?
  | .word chars => wordValue? chars
  | _ => none

namespace Reader

def start : Reader := ⟨[], none⟩

/-- Hand a finished value to the innermost container, or finish. -/
def accept? (value : Value) : Reader → Option Reader
  | ⟨[], none⟩ => some ⟨[], some value⟩
  | ⟨[], some _⟩ => none
  | ⟨frame :: frames, document⟩ =>
      (frame.accept? value).map fun frame => ⟨frame :: frames, document⟩

def takesValue : Reader → Bool
  | ⟨[], document⟩ => document.isNone
  | ⟨frame :: _, _⟩ => frame.takesValue

/-- Open a container, within the limit. -/
def open? (frame : Frame) (reader : Reader) : Option Reader :=
  if reader.takesValue && reader.frames.length < readingDepth then
    some { reader with frames := frame :: reader.frames }
  else none

def takeMark? (mark : Mark) (reader : Reader) : Option Reader :=
  match mark with
  | .openList => reader.open? .listStart
  | .openMapping => reader.open? .mappingStart
  | mark =>
      match reader.frames with
      | [] => none
      | frame :: frames =>
          match frame.close? mark with
          | some value => accept? value { reader with frames := frames }
          | none => (frame.separate? mark).map fun frame =>
              { reader with frames := frame :: frames }

/-- Take a quoted text, as a key where one may stand. -/
def takeText? (content : Text) (reader : Reader) : Option Reader :=
  match reader.frames with
  | frame :: frames =>
      match frame.acceptKey? content with
      | some frame => some { reader with frames := frame :: frames }
      | none => reader.accept? (.text content)
  | [] => reader.accept? (.text content)

def step (reader : Reader) (lexeme : Lexeme) : Option Reader :=
  match lexeme with
  | .mark mark => reader.takeMark? mark
  | .quoted raw => (unquote? raw).bind fun chars =>
      reader.takeText? (Text.ofChars chars)
  | lexeme => (plainValue? lexeme).bind fun value => reader.accept? value

/-- The document, if all containers are closed. -/
def finish? : Reader → Option Value
  | ⟨[], document⟩ => document
  | ⟨_ :: _, _⟩ => none

end Reader

def ofLexemes? (lexemes : List Lexeme) : Option Value :=
  (lexemes.foldlM Reader.step Reader.start).bind Reader.finish?

/-- The value of a document given by its characters. -/
def ofChars? (chars : List Char) : Option Value :=
  (lexemes? chars).bind ofLexemes?

/-- The value of a document given by its bytes, which must be UTF-8. -/
def ofBytes? (bytes : ByteArray) : Option Value :=
  (String.fromUTF8? bytes).bind fun string => ofChars? string.toList

end PalletTypes.Json
