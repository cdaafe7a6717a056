import PalletTypes.Log.Template.Fill
import PalletTypes.Log.Time

/-!
# Lines of the log

An entry is a record as the log shows it: it has a time, its level is a name,
and its message still waits for its arguments.  A console line follows a
layout; in color, the first occurrence of the level name is put between color
codes.  A line of the log file is a row of fields between semicolons, and the
quotes inside its message are doubled.

A line has a fault if something in it cannot be written.  A console line meets
its message first, then its time and its layout, a row its time, its duration
and then its message; both meet the failure last.
-/

namespace PalletTypes.Log

/-- A record as the log shows it. -/
structure Entry where
  logger : Text
  level : Text
  line : Int
  template : Text
  arguments : List Value
  seconds : Binary64
  milliseconds : Binary64
  elapsed : Binary64
  /-- The text of the failure that it reports, if any. -/
  failure : Except Fault (Option Text)

namespace Entry

/-- What an entry says, without the failure it reports. -/
def message (entry : Entry) : Except Fault Text :=
  fillMessage entry.template entry.arguments

def time (entry : Entry) (style : TimeStyle) : Except Fault Text :=
  style.text entry.seconds entry.milliseconds

/-- The fields that a layout can name. -/
def fields (entry : Entry) (message time : Text) : List (Text × Value) :=
  [("name", .text entry.logger), ("msg", .text entry.template),
    ("levelname", .text entry.level), ("exc_text", .null),
    ("stack_info", .null), ("lineno", .int entry.line), ("funcName", .null),
    ("created", .float entry.seconds), ("msecs", .float entry.milliseconds),
    ("relativeCreated", .float entry.elapsed),
    ("threadName", .text "MainThread"), ("processName", .text "MainProcess"),
    ("message", .text message), ("asctime", .text time)]

end Entry

/-- The layout of a line: a template, and whether the line needs its time. -/
structure Layout where
  template : Template
  needsTime : Bool
deriving DecidableEq, Repr

namespace Layout

/-- A template asks for the time, if only behind another percent sign. -/
def asksForTime : Text → Bool
  | [] => false
  | point :: rest =>
      (Text.ofString "%(asctime)").isPrefixOf (point :: rest) ||
        asksForTime rest

def ofText (text : Text) : Layout := ⟨.ofText text, asksForTime text⟩

/-- The layout of a line with the message alone. -/
def bare : Layout := ofText "%(message)s"

/-- The layout that a text spells; the empty text shows the message alone. -/
def ofText? (text : Text) : Except Fault Layout :=
  if text = [] then .ok bare
  else if Template.mentionsField text then .ok (ofText text)
  else .error (.noField text)

/-- The layout of the console. -/
def console : Layout := ofText "%(asctime)s : %(levelname)-8s : %(message)s"

end Layout

/-- A text with a failure on lines of its own below it. -/
def withFailure (line : Text) : Option Text → Text
  | none => line
  | some failure =>
      if line.getLast? = some (.scalar '\n') then line ++ failure
      else line ++ "\n" ++ failure

/-- A console line: the layout and then the failure on lines of its own. -/
def plainLine (layout : Layout) (style : TimeStyle) (entry : Entry) :
    Except Fault Text := do
  let message ← entry.message
  let time ← if layout.needsTime then entry.time style else .ok []
  let line ← layout.template.fill (.ofFields (entry.fields message time))
  return withFailure line (← entry.failure)

def resetCode : Text := "\x1b[0m"

/-- The colors of the level names. -/
def colors : List (Text × Text) :=
  [("DEBUG", "\x1b[36m"), ("INFO", "\x1b[32m"), ("WARNING", "\x1b[33m"),
    ("ERROR", "\x1b[31m"), ("CRITICAL", "\x1b[35m"), ("RESET", resetCode)]

def colorCode (level : Text) : Text := (colors.lookup level).getD resetCode

/-- What stands before the first occurrence of a pattern, and what stands
behind it; `before` holds what has been passed, last first. -/
def cutAtFirst (pattern before : Text) : Text → Option (Text × Text)
  | [] => if pattern.isEmpty then some (before.reverse, []) else none
  | point :: rest =>
      if pattern.isPrefixOf (point :: rest) then
        some (before.reverse, (point :: rest).drop pattern.length)
      else cutAtFirst pattern (point :: before) rest

def replaceFirst (pattern replacement text : Text) : Text :=
  match cutAtFirst pattern [] text with
  | none => text
  | some (before, after) => before ++ replacement ++ after

def colorLevel (level line : Text) : Text :=
  replaceFirst level (colorCode level ++ level ++ resetCode) line

/-- A console line with its level name in color. -/
def coloredLine (layout : Layout) (style : TimeStyle) (entry : Entry) :
    Except Fault Text :=
  (plainLine layout style entry).map (colorLevel entry.level)

/-- A text with every quote doubled. -/
def doubleQuotes (text : Text) : Text :=
  text.flatMap fun point =>
    if point = .scalar '"' then [point, point] else [point]

def quotedField (content : Text) : Text := "\"" ++ content ++ "\""

/-- The message of a row: what the entry says and the failure it reports. -/
def rowMessage (message : Text) : Option Text → Text
  | none => message
  | some failure => message ++ "\n" ++ failure

def row (style : TimeStyle) (entry : Entry) : Except Fault Text := do
  let time ← entry.time style
  let duration ← wholePart entry.elapsed
  let message ← entry.message
  let failure ← entry.failure
  return List.intercalate (Text.ofString ";")
    [quotedField time, entry.level.padded 8,
      quotedField (Text.ofInt duration ++ " ms"), quotedField entry.logger,
      quotedField (Text.ofInt entry.line),
      quotedField (doubleQuotes (rowMessage message failure))]

end PalletTypes.Log
