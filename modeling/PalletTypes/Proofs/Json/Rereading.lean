import PalletTypes.Proofs.Json.Scanning
import PalletTypes.Proofs.Value

/-!
# Reading what was written

The reader takes the lexemes of a value as one value, the value as a file
keeps it.  A list or a mapping that is open holds a frame of its own on the
stack, so that the depth which the writer allows bounds the stack of the
reader.
-/

namespace PalletTypes.Json

open Value (itemsOnFile entriesOnFile)

/-! ## The layout of a value on file -/

theorem floatLayout_nonfinite {number : Binary64}
    (nonfinite : ¬number.IsFinite) : floatLayout number = nullWord := by
  rw [floatLayout, if_neg nonfinite]

mutual

/-- A value has the layout of what a file keeps of it. -/
theorem layout_onFile (depth : Nat) (value : Value) :
    layout depth value.onFile = layout depth value := by
  cases value with
  | null => rfl
  | bool truth => rfl
  | int number => rfl
  | float number =>
      by_cases finite : number.IsFinite
      · simp [Value.onFile, finite]
      · simp [Value.onFile, finite, layout, floatLayout_nonfinite]
  | text content => rfl
  | list items =>
      simp [Value.onFile, layout, itemsLayout_onFile (depth + 1) true items]
  | mapping entries =>
      simp [Value.onFile, layout,
        entriesLayout_onFile (depth + 1) true entries]

theorem itemsLayout_onFile (depth : Nat) (isFirst : Bool)
    (items : List Value) :
    itemsLayout depth isFirst (itemsOnFile items) =
      itemsLayout depth isFirst items := by
  cases items with
  | nil => rfl
  | cons item items =>
      simp [itemsOnFile, itemsLayout, layout_onFile depth item,
        itemsLayout_onFile depth false items]

theorem entriesLayout_onFile (depth : Nat) (isFirst : Bool)
    (entries : List (Text × Value)) :
    entriesLayout depth isFirst (entriesOnFile entries) =
      entriesLayout depth isFirst entries := by
  cases entries with
  | nil => rfl
  | cons entry entries =>
      obtain ⟨key, value⟩ := entry
      simp [entriesOnFile, entriesLayout, layout_onFile depth value,
        entriesLayout_onFile depth false entries]

end

mutual

/-- What a file keeps has the defects of the value. -/
theorem defect?_onFile (depth : Nat) (value : Value) :
    defect? depth value.onFile = defect? depth value := by
  cases value with
  | null => rfl
  | bool truth => rfl
  | int number => rfl
  | float number =>
      by_cases finite : number.IsFinite <;>
        simp [Value.onFile, finite, defect?]
  | text content => rfl
  | list items =>
      simp [Value.onFile, defect?, itemsDefect?_onFile (depth + 1) items]
  | mapping entries =>
      simp [Value.onFile, defect?, entriesDefect?_onFile (depth + 1) entries]

theorem itemsDefect?_onFile (depth : Nat) (items : List Value) :
    itemsDefect? depth (itemsOnFile items) = itemsDefect? depth items := by
  cases items with
  | nil => rfl
  | cons item items =>
      simp [itemsOnFile, itemsDefect?, defect?_onFile depth item,
        itemsDefect?_onFile depth items]

theorem entriesDefect?_onFile (depth : Nat)
    (entries : List (Text × Value)) :
    entriesDefect? depth (entriesOnFile entries) =
      entriesDefect? depth entries := by
  cases entries with
  | nil => rfl
  | cons entry entries =>
      obtain ⟨key, value⟩ := entry
      simp [entriesOnFile, entriesDefect?, defect?_onFile depth value,
        entriesDefect?_onFile depth entries]

end

/-! ## Open containers -/

/-- The frame of an open list with these items, last first. -/
def listFrame : List Value → Frame
  | [] => .listStart
  | item :: items => .listRest (item :: items)

/-- The frame of an open mapping with these entries. -/
def mappingFrame : List (Text × Value) → Frame
  | [] => .mappingStart
  | entry :: entries => .mappingRest (entry :: entries)

section

variable (frames : List Frame) (document : Option Value)

theorem separate_listFrame (done : List Value) :
    ∃ frame : Frame,
      (separatorLexemes done.isEmpty).foldlM Reader.step
          ⟨listFrame done :: frames, document⟩ =
        some ⟨frame :: frames, document⟩ ∧
      frame.takesValue = true ∧
      ∀ item, frame.accept? item = some (listFrame (item :: done)) := by
  cases done with
  | nil => exact ⟨.listStart, rfl, rfl, fun _ => rfl⟩
  | cons last done => exact ⟨.listItem (last :: done), rfl, rfl, fun _ => rfl⟩

theorem separate_mappingFrame (done : List (Text × Value)) :
    ∃ frame : Frame,
      (separatorLexemes done.isEmpty).foldlM Reader.step
          ⟨mappingFrame done :: frames, document⟩ =
        some ⟨frame :: frames, document⟩ ∧
      ∀ key, frame.acceptKey? key = some (.mappingColon done key) := by
  cases done with
  | nil => exact ⟨.mappingStart, rfl, fun _ => rfl⟩
  | cons entry done =>
      exact ⟨.mappingKey (entry :: done), rfl, fun _ => rfl⟩

theorem step_closeList (done : List Value) :
    Reader.step ⟨listFrame done :: frames, document⟩ (.mark .closeList) =
      Reader.accept? (.list done.reverse) ⟨frames, document⟩ := by
  cases done <;> rfl

theorem step_closeMapping (done : List (Text × Value)) :
    Reader.step ⟨mappingFrame done :: frames, document⟩ (.mark .closeMapping) =
      Reader.accept? (.mapping done) ⟨frames, document⟩ := by
  cases done <;> rfl

theorem open?_eq_some {reader : Reader} {depth : Nat} (frame : Frame)
    (ready : reader.takesValue = true)
    (shallow : reader.frames.length ≤ depth) (inside : depth < writingDepth) :
    reader.open? frame = some ⟨frame :: reader.frames, reader.document⟩ := by
  have limit : reader.frames.length < readingDepth := by
    unfold writingDepth at inside
    unfold readingDepth
    omega
  simp [Reader.open?, ready, limit]

theorem step_quoted_key {frame : Frame} {done : List (Text × Value)}
    (raw : List Char)
    (takesKey : ∀ key, frame.acceptKey? key = some (.mappingColon done key)) :
    Reader.step ⟨frame :: frames, document⟩ (.quoted raw) =
      (unquote? raw).map fun chars =>
        ⟨.mappingColon done (Text.ofChars chars) :: frames, document⟩ := by
  simp only [Reader.step, Reader.takeText?, takesKey]
  rw [Option.map_eq_bind]
  rfl

theorem step_quoted_value {reader : Reader} (raw : List Char)
    (ready : reader.takesValue = true) :
    Reader.step reader (.quoted raw) =
      (unquote? raw).bind fun chars =>
        reader.accept? (.text (Text.ofChars chars)) := by
  obtain ⟨frames, document⟩ := reader
  cases frames with
  | nil => rfl
  | cons frame frames =>
      have noKey : ∀ key, frame.acceptKey? key = none := by
        intro key
        cases frame <;> first | rfl | exact nomatch ready
      simp [Reader.step, Reader.takeText?, noKey]

end

/-! ## Reading the lexemes of a value -/

theorem mappingFrame_of_nonempty {done : List (Text × Value)}
    (nonempty : done.isEmpty = false) :
    mappingFrame done = .mappingRest done := by
  cases done with
  | nil => exact nomatch nonempty
  | cons entry done => rfl

mutual

/-- The reader takes the lexemes of a value as the value. -/
theorem read_lexemes {depth : Nat} {value : Value} (reader : Reader)
    (sound : defect? depth value = none)
    (distinct : value.hasDistinctKeys = true)
    (ready : reader.takesValue = true)
    (shallow : reader.frames.length ≤ depth) :
    (lexemes value).foldlM Reader.step reader =
      reader.accept? value.onFile := by
  cases value with
  | null =>
      simp [lexemes, Reader.step, nullWord, plainValue?, wordValue?,
        Value.onFile]
  | bool truth =>
      cases truth <;>
        simp [lexemes, Reader.step, plainValue?, wordValue?, Value.onFile]
  | int number =>
      have isWord : isWordInteger number = true := by
        simpa [defect?] using sound
      simp [lexemes, Reader.step, plainValue?_integerLayout isWord,
        Value.onFile]
  | float number =>
      by_cases finite : number.IsFinite
      · simp [lexemes, floatLexeme, Reader.step, finite,
          plainValue?_text finite, Value.onFile]
      · simp [lexemes, floatLexeme, Reader.step, finite, nullWord,
          plainValue?, wordValue?, Value.onFile]
  | text content =>
      have read := step_quoted_value (escaped content) ready
      obtain ⟨chars, unquoted, same⟩ := unquote?_escaped sound
      simp [lexemes, read, unquoted, same, Value.onFile]
  | list items =>
      rw [defect?] at sound
      split at sound
      case isTrue inside =>
        obtain ⟨frames, document⟩ := reader
        have opened : Reader.step ⟨frames, document⟩ (.mark .openList) =
            some ⟨listFrame [] :: frames, document⟩ :=
          open?_eq_some .listStart ready shallow inside
        have taken : (itemsLexemes true items).foldlM Reader.step
            ⟨listFrame [] :: frames, document⟩ =
              some ⟨listFrame ((itemsOnFile items).reverse ++ []) :: frames,
                document⟩ :=
          read_itemsLexemes frames document [] sound distinct (Nat.succ_le_succ shallow)
        simp [lexemes, opened, taken, step_closeList, Value.onFile]
      case isFalse => exact nomatch sound
  | mapping entries =>
      rw [defect?] at sound
      rw [Value.hasDistinctKeys, Bool.and_eq_true, decide_eq_true_eq]
        at distinct
      split at sound
      case isTrue inside =>
        obtain ⟨frames, document⟩ := reader
        have opened : Reader.step ⟨frames, document⟩ (.mark .openMapping) =
            some ⟨mappingFrame [] :: frames, document⟩ :=
          open?_eq_some .mappingStart ready shallow inside
        have taken : (entriesLexemes true entries).foldlM Reader.step
            ⟨mappingFrame [] :: frames, document⟩ =
              some ⟨mappingFrame ([] ++ entriesOnFile entries) :: frames,
                document⟩ :=
          read_entriesLexemes frames document [] sound distinct.2 distinct.1
            (Nat.succ_le_succ shallow)
        simp [lexemes, opened, taken, step_closeMapping, Value.onFile]
      case isFalse => exact nomatch sound

theorem read_itemsLexemes {depth : Nat} {items : List Value}
    (frames : List Frame) (document : Option Value) (done : List Value)
    (sound : itemsDefect? depth items = none)
    (distinct : Value.itemsHaveDistinctKeys items = true)
    (shallow : frames.length + 1 ≤ depth) :
    (itemsLexemes done.isEmpty items).foldlM Reader.step
        ⟨listFrame done :: frames, document⟩ =
      some ⟨listFrame ((itemsOnFile items).reverse ++ done) :: frames,
        document⟩ := by
  cases items with
  | nil => rfl
  | cons item items =>
      rw [itemsDefect?, Option.or_eq_none_iff] at sound
      rw [Value.itemsHaveDistinctKeys, Bool.and_eq_true] at distinct
      obtain ⟨frame, separated, ready, accepts⟩ :=
        separate_listFrame frames document done
      have taken := read_lexemes ⟨frame :: frames, document⟩ sound.1 distinct.1 ready shallow
      have accepted : Reader.accept? item.onFile
          ⟨frame :: frames, document⟩ =
            some ⟨listFrame (item.onFile :: done) :: frames, document⟩ := by
        simp [Reader.accept?, accepts]
      have rest := read_itemsLexemes frames document (item.onFile :: done)
        sound.2 distinct.2 shallow
      rw [List.isEmpty_cons] at rest
      simp [itemsLexemes, separated, taken, accepted, rest, itemsOnFile]

/-- Mapping counterpart of `read_lexemes`; the keys that have come are not put
again. -/
theorem read_entriesLexemes {depth : Nat} {entries : List (Text × Value)}
    (frames : List Frame) (document : Option Value)
    (done : List (Text × Value))
    (sound : entriesDefect? depth entries = none)
    (distinct : Value.entriesHaveDistinctKeys entries = true)
    (fresh : (Entries.keys (done ++ entries)).Nodup)
    (shallow : frames.length + 1 ≤ depth) :
    (entriesLexemes done.isEmpty entries).foldlM Reader.step
        ⟨mappingFrame done :: frames, document⟩ =
      some ⟨mappingFrame (done ++ entriesOnFile entries) :: frames,
        document⟩ := by
  cases entries with
  | nil => simp [entriesLexemes, entriesOnFile]
  | cons entry entries =>
      obtain ⟨key, value⟩ := entry
      rw [entriesDefect?, Option.or_eq_none_iff, Option.or_eq_none_iff]
        at sound
      rw [Value.entriesHaveDistinctKeys, Bool.and_eq_true] at distinct
      have absent : key ∉ Entries.keys done := by
        intro present
        rw [Entries.keys, List.map_append, List.nodup_append] at fresh
        exact fresh.2.2 key present key (by simp) rfl
      have freshRest : (Entries.keys
          ((done ++ [(key, value.onFile)]) ++ entries)).Nodup := by
        simpa [Entries.keys] using fresh
      obtain ⟨frame, separated, takesKey⟩ :=
        separate_mappingFrame frames document done
      obtain ⟨chars, unquoted, same⟩ := unquote?_escaped sound.1
      have named := step_quoted_key frames document (escaped key) takesKey
      rw [unquoted, Option.map_some, same] at named
      have awaited : Reader.step ⟨.mappingColon done key :: frames, document⟩
          (.mark .colon) =
            some ⟨.mappingValue done key :: frames, document⟩ := rfl
      have taken := read_lexemes ⟨.mappingValue done key :: frames, document⟩
        sound.2.1 distinct.1 rfl shallow
      have notFirst : (done ++ [(key, value.onFile)]).isEmpty = false := by
        simp
      have accepted : Reader.accept? value.onFile
          ⟨.mappingValue done key :: frames, document⟩ =
            some ⟨mappingFrame (done ++ [(key, value.onFile)]) :: frames,
              document⟩ := by
        simp [Reader.accept?, Frame.accept?,
          mappingFrame_of_nonempty notFirst, Entries.put_of_not_mem _ absent]
      have rest := read_entriesLexemes frames document
        (done ++ [(key, value.onFile)]) sound.2.2 distinct.2 freshRest shallow
      rw [notFirst] at rest
      simp [entriesLexemes, separated, named, awaited, taken, accepted, rest,
        entriesOnFile]

end

/-- The layout of a value without a defect is read as what a file keeps of the
value. -/
theorem ofChars?_layout {value : Value} (sound : defect? 0 value = none)
    (distinct : value.hasDistinctKeys = true) :
    ofChars? (layout 0 value) = some value.onFile := by
  have read := read_lexemes Reader.start sound distinct rfl
    (Nat.le_refl 0)
  rw [ofChars?, lexemes?_layout, Option.bind_some, ofLexemes?, read]
  rfl

end PalletTypes.Json
