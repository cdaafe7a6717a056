import PalletTypes.Log.Template
import PalletTypes.Log.Template.Conversion

/-!
# Templates with their values

The directives of a template take values from a supply.  In a message these
are arguments, which are taken one after the other until none is left.  In a
layout they are the fields of a record: a directive that names a field can
take its value, once; before any field is named, the record as a whole can be
taken.
-/

namespace PalletTypes.Log

/-- Where the directives of a template take their values from. -/
inductive Supply where
  | arguments (values : List Value)
  /-- The fields of a record, and what can be taken next. -/
  | fields (entries : List (Text × Value)) (next : Option Value)

namespace Supply

/-- The fields of a record of which nothing has been taken. -/
def ofFields (entries : List (Text × Value)) : Supply :=
  .fields entries (some (.mapping entries))

def select (name : Text) : Supply → Except Fault Supply
  | .arguments _ => .error .notMapping
  | .fields entries _ =>
      match entries.lookup name with
      | some value => .ok (.fields entries (some value))
      | none => .error (.unknownField name)

def next : Supply → Except Fault (Value × Supply)
  | .arguments (value :: values) => .ok (value, .arguments values)
  | .fields entries (some value) => .ok (value, .fields entries none)
  | _ => .error .missingArgument

/-- The fault of a template that ends in the name of a field. -/
def nameFault : Supply → Fault
  | .arguments _ => .notMapping
  | .fields _ _ => .incompleteName

def finish : Supply → Except Fault Unit
  | .arguments (_ :: _) => .error .unusedArgument
  | _ => .ok ()

def nextInteger (supply : Supply) : Except Fault (Int × Supply) := do
  let (value, supply) ← supply.next
  match value with
  | .int number => .ok (number, supply)
  | .bool truth => .ok (truth.toInt, supply)
  | _ => .error .notAmount

/-- A width.  A negative one asks for blanks behind the value; the least
number of a word has no opposite there and is no width. -/
def width (supply : Supply) : Option Amount → Except Fault (Int × Supply)
  | none => .ok (0, supply)
  | some (.count number) =>
      if isSignedWord number then .ok (number, supply)
      else .error .widthTooLarge
  | some .argument => do
      let (number, supply) ← supply.nextInteger
      if !isSignedWord number then .error .wideArgument
      else if isSignedWord (-number) then .ok (number, supply)
      else .ok (0, supply)

/-- A precision; a negative one counts as zero. -/
def precision (supply : Supply) :
    Option Amount → Except Fault (Option Nat × Supply)
  | none => .ok (none, supply)
  | some (.count number) =>
      if isSignedHalfWord number then .ok (some number, supply)
      else .error .precisionTooLarge
  | some .argument => do
      let (number, supply) ← supply.nextInteger
      if isSignedHalfWord number then .ok (some number.toNat, supply)
      else .error .preciseArgument

/-- The form that a directive asks for. -/
def form (supply : Supply) (directive : Directive) :
    Except Fault (Form × Supply) := do
  let supply ← match directive.field with
    | some name => supply.select name
    | none => .ok supply
  let (width, supply) ← supply.width directive.width
  let (precision, supply) ← supply.precision directive.precision
  return ({
    alternate := directive.alternate
    zeros := directive.zeros
    blanksBehind := directive.blanksBehind || decide (width < 0)
    sign := if directive.plus then "+" else if directive.blank then " " else []
    width := width.natAbs
    precision := precision }, supply)

end Supply

def Piece.fill (supply : Supply) : Piece → Except Fault (Text × Supply)
  | .literal point => .ok ([point], supply)
  | .unnamed => .error supply.nameFault
  | .unfinished head => do
      let _ ← supply.form head
      .error .incomplete
  | .directive head conversion index => do
      let (form, supply) ← supply.form head
      let (value, supply) ← supply.next
      let text ← form.convert conversion index value
      return (text, supply)

def Template.fill (supply : Supply) : Template → Except Fault Text
  | [] => supply.finish.map fun _ => []
  | piece :: pieces => do
      let (text, supply) ← piece.fill supply
      let rest ← fill supply pieces
      return text ++ rest

/-- A message with its arguments; without any, the template stands as it
is. -/
def fillMessage (template : Text) (arguments : List Value) :
    Except Fault Text :=
  if arguments.isEmpty then .ok template
  else (Template.ofText template).fill (.arguments arguments)

end PalletTypes.Log
