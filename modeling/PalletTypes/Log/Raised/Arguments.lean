import PalletTypes.Log.Raised

/-!
# The arguments of exceptions

An exception is made of the name of its class and of arguments.  Most classes
take any arguments; some take a certain number of them, or arguments of
certain kinds only.
-/

namespace PalletTypes.Log

inductive Misuse where
  /-- Arguments of an error about a types file are missing. -/
  | missing (names : List String)
  | surplus (given : Nat)
  | notPath (kind : ValueKind)
  | count (wanted given : Nat)
  | notText (position : Nat) (value : Value)
  | notInteger (kind : ValueKind)
  | tooLarge
  | tooMany
  | notBytes (kind : ValueKind)
  /-- A group takes a message and its members. -/
  | groupCount (given : Nat)
  | groupMessage (value : Value)
  | notSequence
  | noMembers
  | notMember
  | notIterable (kind : ValueKind)
  | tooFewDetails (given : Nat)
  | tooManyDetails (given : Nat)
  /-- The place in a source has a last line but no last position. -/
  | noLastPosition

namespace Raised

def typesClasses : List Text :=
  ["AggregationError", "TypesReadError", "TypesParseError", "TypesWriteError"]

def systemClasses : List Text :=
  ["OSError", "BlockingIOError", "ChildProcessError", "ConnectionError",
    "BrokenPipeError", "ConnectionAbortedError", "ConnectionRefusedError",
    "ConnectionResetError", "FileExistsError", "FileNotFoundError",
    "InterruptedError", "IsADirectoryError", "NotADirectoryError",
    "PermissionError", "ProcessLookupError", "TimeoutError"]

def sourceClasses : List Text :=
  ["SyntaxError", "IndentationError", "TabError"]

/-- The classes that a system error takes by its number. -/
def numberedClasses : List (Int × Text) :=
  [(1, "PermissionError"), (2, "FileNotFoundError"),
    (3, "ProcessLookupError"), (4, "InterruptedError"),
    (10, "ChildProcessError"), (11, "BlockingIOError"),
    (13, "PermissionError"), (17, "FileExistsError"),
    (20, "NotADirectoryError"), (21, "IsADirectoryError"),
    (32, "BrokenPipeError"), (103, "ConnectionAbortedError"),
    (104, "ConnectionResetError"), (108, "BrokenPipeError"),
    (110, "TimeoutError"), (111, "ConnectionRefusedError"),
    (114, "BlockingIOError"), (115, "BlockingIOError")]

def systemClass (className : Text) (number : Value) : Text :=
  let numbered := match number with
    | .int number => numberedClasses.lookup number
    | .bool truth => numberedClasses.lookup truth.toInt
    | _ => none
  if className = "OSError" then numbered.getD className else className

/-- An integer that a word holds. -/
def wordOf (misuse : Misuse) : Value → Except Misuse Int
  | .int number => if isSignedWord number then .ok number else .error misuse
  | .bool truth => .ok truth.toInt
  | value => .error (.notInteger value.kind)

def textOf (position : Nat) : Value → Except Misuse Text
  | .text content => .ok content
  | value => .error (.notText position value)

def isNumber : Value → Bool
  | .int _ | .bool _ | .float _ => true
  | _ => false

/-- A system error with its first file.  In place of it, one that would block
can have the number of characters that it has written. -/
def ofSystemFile (className : Text) (number reason file : Value)
    (others : List Value) : Except Misuse Raised := do
  if className = "BlockingIOError" && isNumber file then
    let _ ← wordOf .tooMany file
    return .system className number reason []
  return .system className number reason (file :: others)

/-- A system error.  Behind its first file stands a number that is not shown,
and then its second file. -/
def ofSystem (className : Text) : List Value → Except Misuse Raised
  | [number, reason] =>
      .ok (.system (systemClass className number) number reason [])
  | [number, reason, file] =>
      ofSystemFile (systemClass className number) number reason file []
  | [number, reason, file, _] =>
      ofSystemFile (systemClass className number) number reason file []
  | [number, reason, file, _, other] =>
      ofSystemFile (systemClass className number) number reason file [other]
  | arguments => .ok (.plain className arguments)

def ofTypes (className : Text) : List Value → Except Misuse Raised
  | [] => .error (.missing ["path", "reason"])
  | [_] => .error (.missing ["reason"])
  | [.text path, reason] => .ok (.types className (.ofText path) reason)
  | [path, _] => .error (.notPath path.kind)
  | arguments => .error (.surplus arguments.length)

/-- A text that has no encoding. -/
def ofEncoding (className : Text) : List Value → Except Misuse Raised
  | [encoding, content, first, stop, reason] => do
      let encoding ← textOf 1 encoding
      let content ← textOf 2 content
      let first ← wordOf .tooLarge first
      let stop ← wordOf .tooLarge stop
      let reason ← textOf 5 reason
      return .unfit className ("'" ++ encoding ++ "' codec can't encode")
        content first stop reason
  | arguments => .error (.count 5 arguments.length)

/-- Bytes that are the encoding of no text; there are no such arguments. -/
def ofDecoding : List Value → Except Misuse Raised
  | [encoding, content, first, stop, reason] => do
      let _ ← textOf 1 encoding
      let _ ← wordOf .tooLarge first
      let _ ← wordOf .tooLarge stop
      let _ ← textOf 5 reason
      .error (.notBytes content.kind)
  | arguments => .error (.count 5 arguments.length)

/-- A text that a map of characters does not take. -/
def ofCharacterMap (className : Text) : List Value → Except Misuse Raised
  | [content, first, stop, reason] => do
      let content ← textOf 1 content
      let first ← wordOf .tooLarge first
      let stop ← wordOf .tooLarge stop
      let reason ← textOf 4 reason
      return .unfit className "can't translate" content first stop reason
  | arguments => .error (.count 4 arguments.length)

/-- A group of exceptions; there are no such arguments. -/
def ofGroup : List Value → Except Misuse Raised
  | [message, members] =>
      match message, members with
      | .text _, .list [] | .text _, .text [] => .error .noMembers
      | .text _, .list _ | .text _, .text _ => .error .notMember
      | .text _, _ => .error .notSequence
      | message, _ => .error (.groupMessage message)
  | arguments => .error (.groupCount arguments.length)

def membersOf : Value → Except Misuse (List Value)
  | .list items => .ok items
  | .text content => .ok (content.map fun point => .text [point])
  | .mapping entries => .ok (entries.map fun entry => .text entry.1)
  | value => .error (.notIterable value.kind)

/-- The place in a source that a collection gives. -/
def spotOf (place : Value) : Except Misuse SourceSpot := do
  let details ← membersOf place
  match details with
  | [file, line, first, text] => return ⟨file, line, text, first, .null⟩
  | [_, _, _, _, _] => .error .noLastPosition
  | [file, line, first, text, _, last] =>
      return ⟨file, line, text, first, last⟩
  | _ =>
      if details.length < 4 then .error (.tooFewDetails details.length)
      else .error (.tooManyDetails details.length)

def ofSource (className : Text) : List Value → Except Misuse Raised
  | [detail, place] => do
      return .source className (some detail) (some (← spotOf place))
  | arguments => .ok (.source className arguments.head? none)

/-- A look-up that failed: with one argument, that is its key. -/
def ofLookup (className : Text) (arguments : List Value) : Raised :=
  match arguments.head?, arguments.length with
  | some key, 1 => .lookup className key
  | _, _ => .plain className arguments

def ofArguments (className : Text) (arguments : List Value) :
    Except Misuse Raised :=
  if className = "IOError" ∨ className = "EnvironmentError" then
    ofSystem "OSError" arguments
  else if systemClasses.contains className then ofSystem className arguments
  else if typesClasses.contains className then ofTypes className arguments
  else if sourceClasses.contains className then ofSource className arguments
  else if className = "KeyError" then .ok (ofLookup className arguments)
  else if className = "UnicodeEncodeError" then ofEncoding className arguments
  else if className = "UnicodeDecodeError" then ofDecoding arguments
  else if className = "UnicodeTranslateError" then
    ofCharacterMap className arguments
  else if className = "ExceptionGroup" ∨ className = "BaseExceptionGroup" then
    ofGroup arguments
  else .ok (.plain className arguments)

end Raised

end PalletTypes.Log
