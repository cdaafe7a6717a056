import Mathlib.Data.List.Forall2
import PalletTypes.Log.Format

/-!
# Reading rows of fields

A file of rows is read one code point at a time.  Semicolons separate the
fields of a row, and a line feed, a carriage return or both end it.  A field
between quotes holds everything as it is written, but for its quotes, which
are written twice; a field without quotes around it holds none.
-/

namespace PalletTypes.Csv

open Log (quotedField doubleQuotes)

def separator : CodePoint := .scalar ';'

def quote : CodePoint := .scalar '"'

def lineFeed : CodePoint := .scalar '\n'

def carriageReturn : CodePoint := .scalar '\r'

/-- The code points that a field can end before. -/
def endsField (point : CodePoint) : Bool :=
  point == separator || point == lineFeed || point == carriageReturn

/-- What is being read; the code points of a field are given last first. -/
inductive Stage where
  | rowStart
  /-- Behind a carriage return that has ended a row. -/
  | returned
  | fieldStart
  | bare (field : Text)
  | quoted (field : Text)
  /-- Behind a quote inside a quoted field: its end, or the first of two. -/
  | closed (field : Text)

/-- A reader: its stage, the fields of the row at hand, last first, and the
rows before it, last first. -/
structure Reader where
  stage : Stage
  fields : List Text
  rows : List (List Text)

namespace Reader

def start : Reader := ⟨.rowStart, [], []⟩

def endRow (reader : Reader) (stage : Stage) (field : Text) : Reader :=
  ⟨stage, [], (field.reverse :: reader.fields).reverse :: reader.rows⟩

/-- End a field before a code point. -/
def endField (reader : Reader) (field : Text) (point : CodePoint) : Reader :=
  if point = separator then
    { reader with
      stage := .fieldStart
      fields := field.reverse :: reader.fields }
  else if point = carriageReturn then reader.endRow .returned field
  else reader.endRow .rowStart field

/-- Start a field with a code point. -/
def enter (reader : Reader) (point : CodePoint) : Reader :=
  if point = quote then { reader with stage := .quoted [] }
  else if endsField point then reader.endField [] point
  else { reader with stage := .bare [point] }

def step (reader : Reader) (point : CodePoint) : Option Reader :=
  match reader.stage with
  | .rowStart => some (reader.enter point)
  | .returned =>
      if point = lineFeed then some { reader with stage := .rowStart }
      else some (reader.enter point)
  | .fieldStart => some (reader.enter point)
  | .bare field =>
      if endsField point then some (reader.endField field point)
      else if point = quote then none
      else some { reader with stage := .bare (point :: field) }
  | .quoted field =>
      if point = quote then some { reader with stage := .closed field }
      else some { reader with stage := .quoted (point :: field) }
  | .closed field =>
      if point = quote then
        some { reader with stage := .quoted (point :: field) }
      else if endsField point then some (reader.endField field point)
      else none

/-- All rows in order, unless a quoted field is open. -/
def finish (reader : Reader) : Option (List (List Text)) :=
  match reader.stage with
  | .rowStart => some reader.rows.reverse
  | .returned => some reader.rows.reverse
  | .fieldStart => some (reader.endRow .rowStart []).rows.reverse
  | .bare field => some (reader.endRow .rowStart field).rows.reverse
  | .closed field => some (reader.endRow .rowStart field).rows.reverse
  | .quoted _ => none

end Reader

/-- The rows of a file. -/
def decode? (text : Text) : Option (List (List Text)) :=
  (text.foldlM Reader.step Reader.start).bind Reader.finish

/-! ## Fields -/

/-- A field that can be written without quotes. -/
def IsBare (field : Text) : Prop :=
  field ≠ [] ∧ ∀ point ∈ field, point ≠ quote ∧ endsField point = false

/-- The ways to write a field. -/
inductive Spells : Text → Text → Prop where
  | quoted (field : Text) : Spells (quotedField (doubleQuotes field)) field
  | bare {field : Text} (isBare : IsBare field) : Spells field field

/-- A field with this content has been read up to its end. -/
inductive Stage.Holds (field : Text) : Stage → Prop where
  | bare : Holds field (.bare field.reverse)
  | closed : Holds field (.closed field.reverse)

/-- A field can start. -/
inductive Stage.IsOpen : Stage → Prop where
  | rowStart : IsOpen .rowStart
  | fieldStart : IsOpen .fieldStart

section

variable (fields : List Text) (rows : List (List Text))

theorem step_of_isOpen {stage : Stage} (isOpen : stage.IsOpen)
    (point : CodePoint) :
    Reader.step ⟨stage, fields, rows⟩ point =
      some (Reader.enter ⟨stage, fields, rows⟩ point) := by
  cases isOpen <;> rfl

/-- Inside of quotes a text is read from its form with doubled quotes. -/
theorem read_doubleQuotes (done content : Text) :
    (doubleQuotes content).foldlM Reader.step
        ⟨.quoted done, fields, rows⟩ =
      some ⟨.quoted (content.reverse ++ done), fields, rows⟩ := by
  induction content generalizing done with
  | nil => rfl
  | cons point content ih =>
      have tail := ih (point :: done)
      have taken : (if point = .scalar '"' then [point, point]
          else [point]).foldlM Reader.step ⟨.quoted done, fields, rows⟩ =
            some ⟨.quoted (point :: done), fields, rows⟩ := by
        by_cases isQuote : point = quote
        · subst isQuote
          rfl
        · have notQuote : point ≠ .scalar '"' := isQuote
          simp [Reader.step, isQuote, notQuote]
      rw [doubleQuotes, List.flatMap_cons, List.foldlM_append, taken,
        List.reverse_cons, List.append_assoc]
      exact tail

theorem read_bare {done content : Text}
    (plain : ∀ point ∈ content, point ≠ quote ∧ endsField point = false) :
    content.foldlM Reader.step ⟨.bare done, fields, rows⟩ =
      some ⟨.bare (content.reverse ++ done), fields, rows⟩ := by
  induction content generalizing done with
  | nil => rfl
  | cons point content ih =>
      obtain ⟨⟨notQuote, goesOn⟩, later⟩ := List.forall_mem_cons.mp plain
      have taken : Reader.step ⟨.bare done, fields, rows⟩ point =
          some ⟨.bare (point :: done), fields, rows⟩ := by
        simp [Reader.step, notQuote, goesOn]
      rw [List.foldlM_cons, taken, List.reverse_cons, List.append_assoc]
      exact ih later

/-- A field is read from either way to write it. -/
theorem read_field {text field : Text} {stage : Stage}
    (spelled : Spells text field) (isOpen : stage.IsOpen) :
    ∃ next, text.foldlM Reader.step ⟨stage, fields, rows⟩ =
        some ⟨next, fields, rows⟩ ∧ next.Holds field := by
  cases spelled with
  | quoted =>
      have opened : Reader.step ⟨stage, fields, rows⟩ quote =
          some ⟨.quoted [], fields, rows⟩ := by
        rw [step_of_isOpen fields rows isOpen]
        rfl
      have inside := read_doubleQuotes fields rows [] field
      have shut : Reader.step ⟨.quoted (field.reverse ++ []), fields, rows⟩
          quote = some ⟨.closed field.reverse, fields, rows⟩ := by
        rw [List.append_nil]
        rfl
      have written : quotedField (doubleQuotes field) =
          quote :: (doubleQuotes field ++ [quote]) := rfl
      refine ⟨_, ?_, .closed⟩
      rw [written, List.foldlM_cons, opened, Option.bind_eq_bind,
        Option.bind_some, List.foldlM_append, inside, Option.bind_eq_bind,
        Option.bind_some, List.foldlM_cons, shut]
      rfl
  | bare isBare =>
      obtain ⟨nonempty, plain⟩ := isBare
      cases text with
      | nil => exact absurd rfl nonempty
      | cons point text =>
          obtain ⟨⟨notQuote, goesOn⟩, later⟩ := List.forall_mem_cons.mp plain
          have entered : Reader.step ⟨stage, fields, rows⟩ point =
              some ⟨.bare [point], fields, rows⟩ := by
            rw [step_of_isOpen fields rows isOpen]
            simp [Reader.enter, notQuote, goesOn]
          refine ⟨_, ?_, .bare⟩
          rw [List.foldlM_cons, entered, List.reverse_cons]
          exact read_bare fields rows later

theorem step_separator {stage : Stage} {field : Text}
    (held : stage.Holds field) :
    Reader.step ⟨stage, fields, rows⟩ separator =
      some ⟨.fieldStart, field :: fields, rows⟩ := by
  cases held <;>
    simp [Reader.step, Reader.endField, endsField, separator, quote]

theorem step_lineFeed {stage : Stage} {field : Text}
    (held : stage.Holds field) :
    Reader.step ⟨stage, fields, rows⟩ lineFeed =
      some ⟨.rowStart, [], (field :: fields).reverse :: rows⟩ := by
  cases held <;>
    simp [Reader.step, Reader.endField, Reader.endRow, endsField, separator,
      quote, lineFeed, carriageReturn]

end

/-! ## Rows -/

/-- The row holds these fields between separators. -/
def SpellsRow (row : Text) (fields : List Text) : Prop :=
  ∃ texts, List.Forall₂ Spells texts fields ∧ texts ≠ [] ∧
    row = List.intercalate [separator] texts

theorem read_row {texts contents : List Text}
    (spelled : List.Forall₂ Spells texts contents) (nonempty : texts ≠ [])
    {stage : Stage} (isOpen : stage.IsOpen) (fields : List Text)
    (rows : List (List Text)) :
    (List.intercalate [separator] texts ++ [lineFeed]).foldlM Reader.step
        ⟨stage, fields, rows⟩ =
      some ⟨.rowStart, [], (fields.reverse ++ contents) :: rows⟩ := by
  induction spelled generalizing stage fields with
  | nil => exact absurd rfl nonempty
  | @cons text content texts contents spelledFirst spelledRest ih =>
      obtain ⟨next, read, held⟩ := read_field fields rows spelledFirst isOpen
      cases spelledRest with
      | nil =>
          rw [List.intercalate_singleton, List.foldlM_append, read,
            Option.bind_eq_bind, Option.bind_some, List.foldlM_cons,
            step_lineFeed fields rows held]
          simp
      | @cons textNext contentNext textsRest contentsRest _ _ =>
          have later := ih (List.cons_ne_nil _ _) .fieldStart (content :: fields)
          rw [List.intercalate_cons_cons, List.append_assoc,
            List.append_assoc, List.foldlM_append, read, Option.bind_eq_bind,
            Option.bind_some, List.singleton_append, List.foldlM_cons,
            step_separator fields rows held, Option.bind_eq_bind,
            Option.bind_some, later]
          simp

theorem read_rows {texts : List Text} {contents : List (List Text)}
    (spelled : List.Forall₂ SpellsRow texts contents)
    (done : List (List Text)) :
    (texts.flatMap fun text => text ++ [lineFeed]).foldlM Reader.step
        ⟨.rowStart, [], done⟩ =
      some ⟨.rowStart, [], contents.reverse ++ done⟩ := by
  induction spelled generalizing done with
  | nil => rfl
  | @cons text content texts contents row rest ih =>
      obtain ⟨pieces, spelled, nonempty, rfl⟩ := row
      have first := read_row spelled nonempty .rowStart [] done
      rw [List.flatMap_cons, List.foldlM_append, first, List.reverse_cons,
        List.append_assoc]
      exact ih (content :: done)

/-- Rows with a line feed behind each of them are read as they are. -/
theorem decode?_rows {texts : List Text} {contents : List (List Text)}
    (spelled : List.Forall₂ SpellsRow texts contents) :
    decode? (texts.flatMap fun text => text ++ [lineFeed]) =
      some contents := by
  rw [decode?, Reader.start, read_rows spelled]
  simp [Reader.finish]

end PalletTypes.Csv
