import PalletTypes.Text.Alphanumeric
import PalletTypes.Text.Digit

/-!
# Templates

A template is a text with directives.  A directive starts with a percent sign
and ends with its conversion.  Before the conversion it can name a field
between parentheses, which can stand inside each other; ask for another form,
for zeros or a sign in front of a number, or for blanks behind the value; and
give a width and, behind a point, a precision.  A star stands for a width or a
precision that is an argument.  A letter for the size of a number is passed
over.  Two percent signs stand for one.

A template is scanned one code point at a time; only then are its directives
given their values.
-/

namespace PalletTypes.Log

inductive Amount where
  | count (number : Nat)
  /-- What the next argument says. -/
  | argument
deriving DecidableEq, Repr

def Amount.extend (digit : Nat) : Option Amount → Amount
  | some (.count number) => .count (number * 10 + digit)
  | _ => .count digit

/-- What a directive says before its conversion. -/
structure Directive where
  field : Option Text := none
  alternate : Bool := false
  zeros : Bool := false
  blanksBehind : Bool := false
  plus : Bool := false
  blank : Bool := false
  width : Option Amount := none
  precision : Option Amount := none
deriving DecidableEq, Repr

inductive Piece where
  | literal (point : CodePoint)
  /-- A directive with its conversion, which stands at the index. -/
  | directive (head : Directive) (conversion : CodePoint) (index : Nat)
  /-- A directive without its conversion, at the end of the template. -/
  | unfinished (head : Directive)
  /-- The name of a field without its end, at the end of the template. -/
  | unnamed
deriving DecidableEq, Repr

/-- The pieces of a template in order. -/
abbrev Template := List Piece

/-- What a directive goes on with.  Each part can be left out for the next. -/
inductive Part where
  | flags
  | width
  | point
  | precision
  | precisionDigits
  | size
  | conversion
deriving DecidableEq, Repr

/-- Where the scan of a template stands. -/
inductive Stage where
  | outside
  | begun
  /-- In the name of a field, with the number of parentheses that are open
  inside of it; its code points are given last first. -/
  | naming (depth : Nat) (name : Text)
  /-- In a directive behind its percent sign or its field. -/
  | inside (part : Part) (directive : Directive)
deriving DecidableEq, Repr

def percent : CodePoint := .scalar '%'

def star : CodePoint := .scalar '*'

def fullStop : CodePoint := .scalar '.'

def sizeLetters : Text := "hlL"

/-- A directive with a flag, if the code point is one. -/
def Directive.flagged? (directive : Directive) : CodePoint → Option Directive
  | .scalar '#' => some { directive with alternate := true }
  | .scalar '0' => some { directive with zeros := true }
  | .scalar '-' => some { directive with blanksBehind := true }
  | .scalar '+' => some { directive with plus := true }
  | .scalar ' ' => some { directive with blank := true }
  | _ => none

namespace Stage

/-- Take the conversion, or the size in front of it. -/
def takeSize (directive : Directive) (index : Nat) (point : CodePoint) :
    Stage × Option Piece :=
  if sizeLetters.contains point then (.inside .conversion directive, none)
  else (.outside, some (.directive directive point index))

/-- Take a digit of the precision, or what comes next. -/
def takePrecisionDigit (directive : Directive) (index : Nat)
    (point : CodePoint) : Stage × Option Piece :=
  match point.digit? with
  | some digit =>
      let precision := Amount.extend digit directive.precision
      (.inside .precisionDigits { directive with precision := some precision },
        none)
  | none => takeSize directive index point

/-- Take the start of the precision, or what comes next. -/
def takePrecision (directive : Directive) (index : Nat) (point : CodePoint) :
    Stage × Option Piece :=
  if point = star then
    (.inside .size { directive with precision := some .argument }, none)
  else takePrecisionDigit directive index point

/-- Take the point in front of the precision, or what comes next. -/
def takePoint (directive : Directive) (index : Nat) (point : CodePoint) :
    Stage × Option Piece :=
  if point = fullStop then
    (.inside .precision { directive with precision := some (.count 0) }, none)
  else takeSize directive index point

/-- Take a digit of the width, or what comes next. -/
def takeWidthDigit (directive : Directive) (index : Nat) (point : CodePoint) :
    Stage × Option Piece :=
  match point.digit? with
  | some digit =>
      let width := Amount.extend digit directive.width
      (.inside .width { directive with width := some width }, none)
  | none => takePoint directive index point

/-- Take a flag, or what comes next. -/
def takeFlag (directive : Directive) (index : Nat) (point : CodePoint) :
    Stage × Option Piece :=
  match directive.flagged? point with
  | some directive => (.inside .flags directive, none)
  | none =>
      if point = star then
        (.inside .point { directive with width := some .argument }, none)
      else takeWidthDigit directive index point

def takeInside (part : Part) (directive : Directive) (index : Nat)
    (point : CodePoint) : Stage × Option Piece :=
  match part with
  | .flags => takeFlag directive index point
  | .width => takeWidthDigit directive index point
  | .point => takePoint directive index point
  | .precision => takePrecision directive index point
  | .precisionDigits => takePrecisionDigit directive index point
  | .size => takeSize directive index point
  | .conversion => (.outside, some (.directive directive point index))

def takeName (depth : Nat) (name : Text) (point : CodePoint) : Stage :=
  if point = .scalar '(' then .naming (depth + 1) (point :: name)
  else if point = .scalar ')' then
    match depth with
    | 0 => .inside .flags { field := some name.reverse }
    | depth + 1 => .naming depth (point :: name)
  else .naming depth (point :: name)

def take (index : Nat) (point : CodePoint) : Stage → Stage × Option Piece
  | .outside =>
      if point = percent then (.begun, none)
      else (.outside, some (.literal point))
  | .begun =>
      if point = percent then (.outside, some (.literal percent))
      else if point = .scalar '(' then (.naming 0 [], none)
      else takeFlag {} index point
  | .naming depth name => (takeName depth name point, none)
  | .inside part directive => takeInside part directive index point

def finish : Stage → Template
  | .outside => []
  | .begun => [.unfinished {}]
  | .naming _ _ => [.unnamed]
  | .inside _ directive => [.unfinished directive]

end Stage

namespace Template

/-- The pieces of the rest of a template that starts at an index. -/
def scan (index : Nat) (stage : Stage) : Text → Template
  | [] => stage.finish
  | point :: rest =>
      let (stage, piece) := stage.take index point
      piece.toList ++ scan (index + 1) stage rest

def ofText (text : Text) : Template := scan 0 .outside text

/-- The code points that names of fields consist of. -/
def isNamePoint (point : CodePoint) : Bool :=
  point = .scalar '_' || Text.isAlphanumericPoint point

/-- The code points that can stand between a field and its width. -/
def flags : Text := "#0+ -"

/-- What a directive that names its field can end with: letters whose small
letter is a conversion, two more letters that are a case of `i`, one that is a
case of `s`, and the percent sign. -/
def endings : Text := "diouxefgcrsaDIOUXEFGCRSA\u0130\u0131\u017f%"

/-- What stands behind an amount; the digits can be of any script. -/
def behindAmount (text : Text) : Text :=
  match text with
  | .scalar '*' :: rest => rest
  | text => text.dropWhile fun point => (Text.decimalDigit? point).isSome

/-- What stands behind a precision with its point, which can be left out, but
not only one of the two. -/
def behindPrecision : Text → Text
  | .scalar '.' :: rest =>
      if behindAmount rest = rest then .scalar '.' :: rest
      else behindAmount rest
  | text => text

/-- The rest of a template, behind an opening parenthesis, completes a
directive that names its field. -/
def completesField (rest : Text) : Bool :=
  match rest.takeWhile isNamePoint, rest.dropWhile isNamePoint with
  | _ :: _, .scalar ')' :: rest =>
      let rest := rest.dropWhile fun point => flags.contains point
      match behindPrecision (behindAmount rest) with
      | point :: _ => endings.contains point
      | [] => false
  | _, _ => false

/-- What looks like a directive that names its field stands somewhere in a
template, if only behind another percent sign. -/
def mentionsField : Text → Bool
  | .scalar '%' :: .scalar '(' :: rest =>
      completesField rest || mentionsField rest
  | _ :: rest => mentionsField rest
  | [] => false

end Template

end PalletTypes.Log
