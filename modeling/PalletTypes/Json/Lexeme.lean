/-!
# Lexemes of a document

A document is cut into marks, quoted texts, numbers and words before anything
is read into them.  One character at a time moves the scanner: a number is a
longest run of number characters, a word a longest run of small letters, and a
quoted text ends at the first quote that no backslash precedes.  Blanks
separate; any other character is refused.  `Lexeme.chars` spells a lexeme
again.
-/

namespace PalletTypes.Json

inductive Mark where
  | openList
  | closeList
  | openMapping
  | closeMapping
  | comma
  | colon
deriving DecidableEq, Repr

namespace Mark

def char : Mark → Char
  | .openList => '['
  | .closeList => ']'
  | .openMapping => '\x7b'
  | .closeMapping => '\x7d'
  | .comma => ','
  | .colon => ':'

def ofChar? : Char → Option Mark
  | '[' => some .openList
  | ']' => some .closeList
  | '\x7b' => some .openMapping
  | '\x7d' => some .closeMapping
  | ',' => some .comma
  | ':' => some .colon
  | _ => none

end Mark

/-- A lexeme; the characters of a quoted text are those between its quotes, as
they are written. -/
inductive Lexeme where
  | mark (symbol : Mark)
  | quoted (raw : List Char)
  | number (digits : List Char)
  | word (letters : List Char)
deriving DecidableEq, Repr

namespace Lexeme

def chars : Lexeme → List Char
  | .mark symbol => [symbol.char]
  | .quoted raw => '"' :: raw ++ ['"']
  | .number digits => digits
  | .word letters => letters

end Lexeme

/-- The blanks of a document are four characters only. -/
def isBlank (char : Char) : Bool :=
  char == ' ' || char == '\t' || char == '\n' || char == '\r'

/-- The characters below the space may not stand in a quoted text. -/
def isControl (char : Char) : Bool := char.val < 0x20

def startsNumber (char : Char) : Bool := char == '-' || char.isDigit

def continuesNumber (char : Char) : Bool :=
  char.isDigit || char == '-' || char == '+' || char == '.' ||
    char == 'e' || char == 'E'

def isWordChar (char : Char) : Bool := 'a' ≤ char && char ≤ 'z'

/-- The lexeme that is being scanned, its characters last first. -/
inductive Scan where
  | between
  | quoted (raw : List Char)
  | escaped (raw : List Char)
  | number (chars : List Char)
  | word (chars : List Char)
deriving DecidableEq, Repr

/-- A scanner: the lexeme at hand and the finished ones, last first. -/
structure Scanner where
  scan : Scan
  finished : List Lexeme

namespace Scanner

def start : Scanner := ⟨.between, []⟩

/-- Start on a character that belongs to no open lexeme. -/
def enter (finished : List Lexeme) (char : Char) : Option Scanner :=
  if isBlank char then some ⟨.between, finished⟩
  else if char = '"' then some ⟨.quoted [], finished⟩
  else if startsNumber char then some ⟨.number [char], finished⟩
  else if isWordChar char then some ⟨.word [char], finished⟩
  else (Mark.ofChar? char).map fun symbol =>
    ⟨.between, .mark symbol :: finished⟩

def step (scanner : Scanner) (char : Char) : Option Scanner :=
  match scanner.scan with
  | .between => enter scanner.finished char
  | .quoted raw =>
      if char = '"' then
        some ⟨.between, .quoted raw.reverse :: scanner.finished⟩
      else if char = '\\' then some ⟨.escaped (char :: raw), scanner.finished⟩
      else if isControl char then none
      else some ⟨.quoted (char :: raw), scanner.finished⟩
  | .escaped raw =>
      if isControl char then none
      else some ⟨.quoted (char :: raw), scanner.finished⟩
  | .number chars =>
      if continuesNumber char then
        some ⟨.number (char :: chars), scanner.finished⟩
      else enter (.number chars.reverse :: scanner.finished) char
  | .word chars =>
      if isWordChar char then some ⟨.word (char :: chars), scanner.finished⟩
      else enter (.word chars.reverse :: scanner.finished) char

/-- The lexemes in order, unless a quoted text is open. -/
def finish (scanner : Scanner) : Option (List Lexeme) :=
  match scanner.scan with
  | .between => some scanner.finished.reverse
  | .number chars => some (.number chars.reverse :: scanner.finished).reverse
  | .word chars => some (.word chars.reverse :: scanner.finished).reverse
  | .quoted _ => none
  | .escaped _ => none

end Scanner

def lexemes? (chars : List Char) : Option (List Lexeme) :=
  (chars.foldlM Scanner.step Scanner.start).bind Scanner.finish

end PalletTypes.Json
