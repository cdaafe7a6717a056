import PalletTypes.Json.Lexeme
import PalletTypes.Json.Writer

/-!
# The layout of a document

The writer either meets a defect or appends the layout of a value to what has
been written.  `defect?` finds the first defect in document order and `layout`
gives the characters, each without the other, and `writeValue_eq` says that the
writer is the two together.
-/

namespace PalletTypes.Json

/-- The defect of a text, if it has one. -/
def textDefect? (text : Text) : Option Defect :=
  if text.any (·.isSurrogate) then some .surrogate else none

mutual

/-- The first defect in a value inside the given number of open
containers. -/
def defect? (depth : Nat) : Value → Option Defect
  | .null => none
  | .bool _ => none
  | .int number =>
      if isWordInteger number then none else some .integerRange
  | .float _ => none
  | .text content => textDefect? content
  | .list items =>
      if depth < writingDepth then itemsDefect? (depth + 1) items
      else some .depth
  | .mapping entries =>
      if depth < writingDepth then entriesDefect? (depth + 1) entries
      else some .depth

def itemsDefect? (depth : Nat) : List Value → Option Defect
  | [] => none
  | item :: items => (defect? depth item).or (itemsDefect? depth items)

/-- The first defect in the entries of a mapping, a key before its value. -/
def entriesDefect? (depth : Nat) : List (Text × Value) → Option Defect
  | [] => none
  | (key, value) :: entries =>
      (textDefect? key).or
        ((defect? depth value).or (entriesDefect? depth entries))

end

/-- The written form of the characters of a text. -/
def escaped : Text → List Char
  | [] => []
  | .scalar char :: rest => quoteChar char ++ escaped rest
  | .surrogate _ :: rest => escaped rest

def quotedLayout (text : Text) : List Char := '"' :: (escaped text ++ ['"'])

/-- The digits of an integer behind its sign. -/
def integerLayout (number : Int) : List Char :=
  let digits := Nat.toDigits 10 number.natAbs
  if number < 0 then '-' :: digits else digits

def nullWord : List Char := ['n', 'u', 'l', 'l']

/-- A floating-point number, or the word for no value. -/
def floatLayout (number : Binary64) : List Char :=
  if number.IsFinite then Binary64.text numberStyle number else nullWord

/-- A line break and the indentation inside so many open containers. -/
def lineLayout (depth : Nat) : List Char :=
  '\n' :: List.replicate (2 * depth) ' '

def separatorLayout (isFirst : Bool) : List Char :=
  if isFirst then [] else [',']

/-- The end of a container, on a line of its own unless it is empty. -/
def closingLayout (depth : Nat) (isEmpty : Bool) (mark : Mark) : List Char :=
  (if isEmpty then [] else lineLayout depth) ++ [mark.char]

mutual

/-- The characters of a value inside the given number of open containers. -/
def layout (depth : Nat) : Value → List Char
  | .null => nullWord
  | .bool true => ['t', 'r', 'u', 'e']
  | .bool false => ['f', 'a', 'l', 's', 'e']
  | .int number => integerLayout number
  | .float number => floatLayout number
  | .text content => quotedLayout content
  | .list items =>
      Mark.openList.char :: (itemsLayout (depth + 1) true items ++
        closingLayout depth items.isEmpty .closeList)
  | .mapping entries =>
      Mark.openMapping.char :: (entriesLayout (depth + 1) true entries ++
        closingLayout depth entries.isEmpty .closeMapping)

def itemsLayout (depth : Nat) (isFirst : Bool) : List Value → List Char
  | [] => []
  | item :: items =>
      separatorLayout isFirst ++ lineLayout depth ++ layout depth item ++
        itemsLayout depth false items

/-- The characters of the entries of a mapping, each on a line of its own. -/
def entriesLayout (depth : Nat) (isFirst : Bool) :
    List (Text × Value) → List Char
  | [] => []
  | (key, value) :: entries =>
      separatorLayout isFirst ++ lineLayout depth ++ quotedLayout key ++
        [':', ' '] ++ layout depth value ++ entriesLayout depth false entries

end

/-! ## Appending to what has been written -/

@[simp] theorem appendChars_nil (written : String) :
    appendChars written [] = written := rfl

@[simp] theorem appendChars_cons (written : String) (char : Char)
    (chars : List Char) :
    appendChars written (char :: chars) =
      appendChars (written.push char) chars := rfl

@[simp] theorem appendChars_append (written : String)
    (first second : List Char) :
    appendChars written (first ++ second) =
      appendChars (appendChars written first) second := by
  simp [appendChars]

theorem toList_appendChars (written : String) (chars : List Char) :
    (appendChars written chars).toList = written.toList ++ chars := by
  induction chars generalizing written with
  | nil => simp
  | cons char rest ih =>
      rw [appendChars, List.foldl_cons]
      exact (ih _).trans (by simp)

theorem append_eq_appendChars (written addition : String) :
    written ++ addition = appendChars written addition.toList := by
  apply String.toList_inj.mp
  simp [toList_appendChars]

/-- Appending to the result of a writing that may meet a defect. -/
def writtenAs (written : String) (found : Option Defect)
    (chars : List Char) : Except Defect String :=
  match found with
  | some defect => .error defect
  | none => .ok (appendChars written chars)

/-! ## The writer appends the layout -/

theorem writePoints_eq (written : String) (text : Text) :
    writePoints written text =
      writtenAs written (textDefect? text) (escaped text) := by
  induction text generalizing written with
  | nil => rfl
  | cons point rest ih =>
      cases point with
      | surrogate offset => rfl
      | scalar char =>
          rw [writePoints, ih]
          have same : textDefect? (.scalar char :: rest) =
              textDefect? rest := by
            simp [textDefect?, CodePoint.isSurrogate]
          rw [same, escaped]
          cases textDefect? rest <;> simp [writtenAs]

theorem writeText_eq (text : Text) (written : String) :
    writeText text written =
      writtenAs written (textDefect? text) (quotedLayout text) := by
  rw [writeText, writePoints_eq]
  cases textDefect? text with
  | some defect => rfl
  | none => simp [writtenAs, quotedLayout]

theorem writeInteger_eq (number : Int) (written : String) :
    writeInteger number written =
      writtenAs written (defect? 0 (.int number)) (integerLayout number) := by
  unfold writeInteger defect?
  split <;> rfl

theorem writeFloat_eq (number : Binary64) (written : String) :
    writeFloat number written = appendChars written (floatLayout number) := by
  unfold writeFloat floatLayout
  split
  · rfl
  · exact append_eq_appendChars written "null"

theorem startLine_eq (depth : Nat) (written : String) :
    startLine depth written = appendChars written (lineLayout depth) := rfl

theorem separate_eq (isFirst : Bool) (written : String) :
    separate isFirst written =
      appendChars written (separatorLayout isFirst) := by
  cases isFirst <;> rfl

theorem closing_eq (depth : Nat) (isEmpty : Bool) (mark : Mark)
    (written : String) :
    (if isEmpty then written else startLine depth written).push mark.char =
      appendChars written (closingLayout depth isEmpty mark) := by
  cases isEmpty <;> simp [closingLayout, startLine_eq]

mutual

/-- The writer appends the layout of a value that has no defect. -/
theorem writeValue_eq (depth : Nat) (value : Value) (written : String) :
    writeValue depth value written =
      writtenAs written (defect? depth value) (layout depth value) := by
  cases value with
  | null =>
      rw [writeValue, append_eq_appendChars]
      rfl
  | bool truth =>
      cases truth <;> rw [writeValue, append_eq_appendChars] <;> rfl
  | int number => rw [writeValue, writeInteger_eq]; rfl
  | float number => rw [writeValue, writeFloat_eq]; rfl
  | text content => rw [writeValue, writeText_eq]; rfl
  | list items =>
      rw [writeValue, defect?]
      split
      · rw [writeItems_eq]
        cases itemsDefect? (depth + 1) items with
        | some defect => rfl
        | none =>
            have closing := closing_eq depth items.isEmpty .closeList
            simp only [writtenAs, layout, appendChars_cons,
              appendChars_append, ← closing]
            rfl
      · rfl
  | mapping entries =>
      rw [writeValue, defect?]
      split
      · rw [writeEntries_eq]
        cases entriesDefect? (depth + 1) entries with
        | some defect => rfl
        | none =>
            have closing := closing_eq depth entries.isEmpty .closeMapping
            simp only [writtenAs, layout, appendChars_cons,
              appendChars_append, ← closing]
            rfl
      · rfl

/-- List counterpart of `writeValue_eq`. -/
theorem writeItems_eq (depth : Nat) (isFirst : Bool) (items : List Value)
    (written : String) :
    writeItems depth isFirst items written =
      writtenAs written (itemsDefect? depth items)
        (itemsLayout depth isFirst items) := by
  cases items with
  | nil => rfl
  | cons item items =>
      rw [writeItems, writeValue_eq, itemsDefect?]
      cases defect? depth item with
      | some defect => rfl
      | none =>
          simp only [writtenAs, Option.none_or]
          rw [writeItems_eq]
          cases itemsDefect? depth items with
          | some defect => rfl
          | none =>
              simp [writtenAs, itemsLayout, startLine_eq, separate_eq]

/-- Mapping counterpart of `writeValue_eq`. -/
theorem writeEntries_eq (depth : Nat) (isFirst : Bool)
    (entries : List (Text × Value)) (written : String) :
    writeEntries depth isFirst entries written =
      writtenAs written (entriesDefect? depth entries)
        (entriesLayout depth isFirst entries) := by
  cases entries with
  | nil => rfl
  | cons entry entries =>
      obtain ⟨key, value⟩ := entry
      rw [writeEntries, writeText_eq, entriesDefect?]
      cases textDefect? key with
      | some defect => rfl
      | none =>
          simp only [writtenAs, Option.none_or]
          rw [writeValue_eq]
          cases defect? depth value with
          | some defect => rfl
          | none =>
              simp only [writtenAs, Option.none_or]
              rw [writeEntries_eq]
              cases entriesDefect? depth entries with
              | some defect => rfl
              | none =>
                  simp [writtenAs, entriesLayout, startLine_eq, separate_eq,
                    append_eq_appendChars]

end

theorem ofTable_eq (table : TypeTable) :
    ofTable table =
      writtenAs "" (defect? 0 table.toValue) (layout 0 table.toValue) :=
  writeValue_eq 0 table.toValue ""

end PalletTypes.Json
