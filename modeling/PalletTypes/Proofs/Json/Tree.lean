import PalletTypes.Proofs.Json.Rereading

/-!
# Documents as they are spelled

A tree is a document before anything is read into it: the spelling of every
number, word and text is kept, and so is every entry of a mapping that repeats
a key.  The reader takes the lexemes of a tree as the value of the tree, in
whatever state it waits for a value, unless the tree is nested so deeply that
the stack of the reader would overflow.
-/

namespace PalletTypes.Json

/-- A spelled document; the keys of a mapping are as they stand between their
quotes. -/
inductive Tree where
  | number (digits : List Char)
  | word (letters : List Char)
  | quoted (raw : List Char)
  | list (items : List Tree)
  | mapping (entries : List (List Char × Tree))

namespace Tree

mutual

def lexemes : Tree → List Lexeme
  | .number digits => [.number digits]
  | .word letters => [.word letters]
  | .quoted raw => [.quoted raw]
  | .list items =>
      .mark .openList :: (itemsLexemes true items ++ [.mark .closeList])
  | .mapping entries =>
      .mark .openMapping ::
        (entriesLexemes true entries ++ [.mark .closeMapping])

def itemsLexemes (isFirst : Bool) : List Tree → List Lexeme
  | [] => []
  | item :: items =>
      separatorLexemes isFirst ++ item.lexemes ++ itemsLexemes false items

def entriesLexemes (isFirst : Bool) : List (List Char × Tree) → List Lexeme
  | [] => []
  | (raw, tree) :: entries =>
      separatorLexemes isFirst ++
        .quoted raw :: .mark .colon :: tree.lexemes ++
        entriesLexemes false entries

end

mutual

/-- The value of a tree, whatever its depth; there is none if some part of it
is spelled wrongly or is a number beyond all bounds. -/
def value? : Tree → Option Value
  | .number digits => plainValue? (.number digits)
  | .word letters => plainValue? (.word letters)
  | .quoted raw =>
      (unquote? raw).map fun chars => .text (Text.ofChars chars)
  | .list items => (itemValues? items).map .list
  | .mapping entries =>
      (pairs? entries).map fun pairs => .mapping (Entries.ofPairs pairs)

def itemValues? : List Tree → Option (List Value)
  | [] => some []
  | item :: items =>
      item.value?.bind fun value => (itemValues? items).map (value :: ·)

def pairs? : List (List Char × Tree) → Option (List (Text × Value))
  | [] => some []
  | (raw, tree) :: entries =>
      (unquote? raw).bind fun chars =>
        tree.value?.bind fun value =>
          (pairs? entries).map ((Text.ofChars chars, value) :: ·)

end

mutual

/-- The number of containers around the innermost place of the tree. -/
def nesting : Tree → Nat
  | .number _ => 0
  | .word _ => 0
  | .quoted _ => 0
  | .list items => itemsNesting items + 1
  | .mapping entries => entriesNesting entries + 1

def itemsNesting : List Tree → Nat
  | [] => 0
  | item :: items => max item.nesting (itemsNesting items)

def entriesNesting : List (List Char × Tree) → Nat
  | [] => 0
  | (_, tree) :: entries => max tree.nesting (entriesNesting entries)

end

/-- The entries of two mappings are read one after the other. -/
theorem pairs?_append (first second : List (List Char × Tree)) :
    pairs? (first ++ second) =
      (pairs? first).bind fun front => (pairs? second).map (front ++ ·) := by
  induction first with
  | nil => simp [pairs?]
  | cons entry rest ih =>
      obtain ⟨raw, tree⟩ := entry
      simp only [List.cons_append, pairs?, ih, Option.bind_assoc,
        Option.map_bind, Option.bind_map, Option.map_map, Function.comp_def]

end Tree

/-! ## Results within the limit of the reader -/

/-- The result, unless it needs a higher stack than the reader has. -/
def within {α : Type} (depth : Nat) (result : Option α) : Option α :=
  if depth ≤ readingDepth then result else none

section

variable {α β : Type}

theorem within_of_le {depth : Nat} (inside : depth ≤ readingDepth)
    (result : Option α) : within depth result = result :=
  if_pos inside

theorem within_of_lt {depth : Nat} (outside : readingDepth < depth)
    (result : Option α) : within depth result = none :=
  if_neg (Nat.not_le.mpr outside)

theorem within_eq_some_iff {depth : Nat} {result : Option α} {value : α} :
    within depth result = some value ↔
      depth ≤ readingDepth ∧ result = some value := by
  by_cases inside : depth ≤ readingDepth
  · simp [within_of_le inside, inside]
  · simp [within_of_lt (Nat.lt_of_not_le inside), inside]

theorem bind_within (depth : Nat) (result : Option α)
    (next : α → Option β) :
    (result.bind fun value => within depth (next value)) =
      within depth (result.bind next) := by
  unfold within
  split <;> simp

theorem within_bind (depth : Nat) (result : Option α)
    (next : α → Option β) :
    (within depth result).bind next = within depth (result.bind next) := by
  unfold within
  split <;> rfl

theorem within_within (first second : Nat) (result : Option α) :
    within first (within second result) = within (max first second) result := by
  simp only [within, Nat.max_le]
  by_cases inside : first ≤ readingDepth <;> simp [inside]

end

/-! ## Reading the lexemes of a tree -/

theorem isEmpty_put (key : Text) (value : Value)
    (done : List (Text × Value)) :
    (Entries.put key value done).isEmpty = false := by
  cases done with
  | nil => rfl
  | cons entry done =>
      rw [Entries.put]
      split <;> rfl

theorem open?_eq_within {reader : Reader} (frame : Frame)
    (ready : reader.takesValue = true) :
    reader.open? frame =
      within (reader.frames.length + 1)
        (some ⟨frame :: reader.frames, reader.document⟩) := by
  rw [Reader.open?, ready, Bool.true_and, within]
  by_cases room : reader.frames.length + 1 ≤ readingDepth
  · rw [if_pos (decide_eq_true (Nat.lt_of_succ_le room)), if_pos room]
  · rw [if_neg (by rwa [decide_eq_true_eq]), if_neg room]

mutual

/-- The reader takes the lexemes of a tree as its value. -/
theorem read_treeLexemes (tree : Tree) (reader : Reader)
    (ready : reader.takesValue = true)
    (inside : reader.frames.length ≤ readingDepth) :
    tree.lexemes.foldlM Reader.step reader =
      within (reader.frames.length + tree.nesting)
        (tree.value?.bind fun value => reader.accept? value) := by
  cases tree with
  | number digits =>
      simp [Tree.lexemes, Tree.value?, Tree.nesting, within_of_le inside,
        Reader.step]
  | word letters =>
      simp [Tree.lexemes, Tree.value?, Tree.nesting, within_of_le inside,
        Reader.step]
  | quoted raw =>
      simp only [Tree.lexemes, List.foldlM_cons, List.foldlM_nil,
        step_quoted_value raw ready, Option.pure_def, Option.bind_eq_bind,
        Option.bind_fun_some, Tree.nesting, Nat.add_zero, Tree.value?,
        Option.bind_map, Function.comp_def, within_of_le inside]
  | list items =>
      obtain ⟨frames, document⟩ := reader
      have opened : Reader.step ⟨frames, document⟩ (.mark .openList) =
          within (frames.length + 1)
            (some ⟨listFrame [] :: frames, document⟩) :=
        open?_eq_within .listStart ready
      rw [Tree.lexemes, List.foldlM_cons, opened]
      by_cases room : frames.length + 1 ≤ readingDepth
      · have taken := read_treeItemsLexemes items frames document [] room
        rw [List.isEmpty_nil] at taken
        rw [within_of_le room, Option.bind_eq_bind, Option.bind_some,
          List.foldlM_append, taken, Option.bind_eq_bind, within_bind,
          Tree.nesting, Nat.add_assoc, Nat.add_comm 1]
        simp only [List.foldlM_cons, List.foldlM_nil, List.append_nil,
          List.reverse_reverse, Option.pure_def, Option.bind_eq_bind,
          Option.bind_fun_some, Option.bind_map, Function.comp_def,
          step_closeList, Tree.value?]
      · have deep : readingDepth < frames.length + (Tree.list items).nesting := by
          rw [Tree.nesting]
          omega
        rw [within_of_lt (Nat.lt_of_not_le room), within_of_lt deep]
        rfl
  | mapping entries =>
      obtain ⟨frames, document⟩ := reader
      have opened : Reader.step ⟨frames, document⟩ (.mark .openMapping) =
          within (frames.length + 1)
            (some ⟨mappingFrame [] :: frames, document⟩) :=
        open?_eq_within .mappingStart ready
      rw [Tree.lexemes, List.foldlM_cons, opened]
      by_cases room : frames.length + 1 ≤ readingDepth
      · have taken := read_treeEntriesLexemes entries frames document [] room
        rw [List.isEmpty_nil] at taken
        rw [within_of_le room, Option.bind_eq_bind, Option.bind_some,
          List.foldlM_append, taken, Option.bind_eq_bind, within_bind,
          Tree.nesting, Nat.add_assoc, Nat.add_comm 1]
        simp only [List.foldlM_cons, List.foldlM_nil, Option.pure_def,
          Option.bind_eq_bind, Option.bind_fun_some, Option.bind_map,
          Function.comp_def, step_closeMapping, Tree.value?, Entries.ofPairs]
      · have deep : readingDepth <
            frames.length + (Tree.mapping entries).nesting := by
          rw [Tree.nesting]
          omega
        rw [within_of_lt (Nat.lt_of_not_le room), within_of_lt deep]
        rfl

theorem read_treeItemsLexemes (items : List Tree) (frames : List Frame)
    (document : Option Value) (done : List Value)
    (inside : frames.length + 1 ≤ readingDepth) :
    (Tree.itemsLexemes done.isEmpty items).foldlM Reader.step
        ⟨listFrame done :: frames, document⟩ =
      within (frames.length + 1 + Tree.itemsNesting items)
        ((Tree.itemValues? items).map fun values =>
          ⟨listFrame (values.reverse ++ done) :: frames, document⟩) := by
  cases items with
  | nil =>
      simp [Tree.itemsLexemes, Tree.itemValues?, Tree.itemsNesting,
        within_of_le inside]
  | cons item items =>
      obtain ⟨frame, separated, ready, accepts⟩ :=
        separate_listFrame frames document done
      have accepted : ∀ value,
          Reader.accept? value ⟨frame :: frames, document⟩ =
            some ⟨listFrame (value :: done) :: frames, document⟩ := by
        intro value
        simp [Reader.accept?, accepts]
      have taken := read_treeLexemes item ⟨frame :: frames, document⟩ ready inside
      have rest : ∀ value, (Tree.itemsLexemes false items).foldlM Reader.step
          ⟨listFrame (value :: done) :: frames, document⟩ =
            within (frames.length + 1 + Tree.itemsNesting items)
              ((Tree.itemValues? items).map fun values =>
                ⟨listFrame (values.reverse ++ value :: done) :: frames,
                  document⟩) := fun value =>
        read_treeItemsLexemes items frames document (value :: done) inside
      rw [Tree.itemsLexemes, List.foldlM_append, List.foldlM_append, separated,
        Option.bind_eq_bind, Option.bind_some, taken]
      simp only [accepted, within_bind, rest, Option.bind_some,
        Option.bind_assoc, bind_within, within_within, List.length_cons]
      rw [Tree.itemValues?, Tree.itemsNesting, Nat.add_max_add_left]
      simp [Option.map_bind, Function.comp_def]

theorem read_treeEntriesLexemes (entries : List (List Char × Tree))
    (frames : List Frame) (document : Option Value)
    (done : List (Text × Value))
    (inside : frames.length + 1 ≤ readingDepth) :
    (Tree.entriesLexemes done.isEmpty entries).foldlM Reader.step
        ⟨mappingFrame done :: frames, document⟩ =
      within (frames.length + 1 + Tree.entriesNesting entries)
        ((Tree.pairs? entries).map fun pairs =>
          ⟨mappingFrame (Entries.putAll done pairs) :: frames, document⟩) := by
  cases entries with
  | nil =>
      simp [Tree.entriesLexemes, Tree.pairs?, Tree.entriesNesting,
        within_of_le inside, Entries.putAll]
  | cons entry entries =>
      obtain ⟨raw, tree⟩ := entry
      obtain ⟨frame, separated, takesKey⟩ :=
        separate_mappingFrame frames document done
      have named := step_quoted_key frames document raw takesKey
      rw [Tree.entriesLexemes, List.foldlM_append, List.foldlM_append,
        separated, Option.bind_eq_bind, Option.bind_some, List.foldlM_cons,
        named]
      cases unquoted : unquote? raw with
      | none => simp [Tree.pairs?, unquoted, within]
      | some chars =>
          let key := Text.ofChars chars
          have awaited : Reader.step ⟨.mappingColon done key :: frames,
              document⟩ (.mark .colon) =
                some ⟨.mappingValue done key :: frames, document⟩ := rfl
          have taken := read_treeLexemes tree
            ⟨.mappingValue done key :: frames, document⟩ rfl inside
          have accepted : ∀ value, Reader.accept? value
              ⟨.mappingValue done key :: frames, document⟩ =
                some ⟨mappingFrame (Entries.put key value done) :: frames,
                  document⟩ := by
            intro value
            rw [mappingFrame_of_nonempty (isEmpty_put key value done)]
            rfl
          have rest : ∀ value,
              (Tree.entriesLexemes false entries).foldlM Reader.step
                ⟨mappingFrame (Entries.put key value done) :: frames,
                  document⟩ =
                within (frames.length + 1 + Tree.entriesNesting entries)
                  ((Tree.pairs? entries).map fun pairs =>
                    ⟨mappingFrame
                        (Entries.putAll done ((key, value) :: pairs)) ::
                      frames, document⟩) := by
            intro value
            have later := read_treeEntriesLexemes entries frames document
              (Entries.put key value done) inside
            rw [isEmpty_put] at later
            exact later
          rw [Option.map_some, Option.bind_eq_bind, Option.bind_some,
            List.foldlM_cons, awaited, Option.bind_eq_bind, Option.bind_some,
            taken]
          simp only [accepted, within_bind, rest, Option.bind_some,
            Option.bind_assoc, bind_within, within_within, List.length_cons]
          rw [Tree.pairs?, unquoted, Option.bind_some, Tree.entriesNesting,
            Nat.add_max_add_left]
          simp [Option.map_bind, Function.comp_def, key]

end

/-- The lexemes of a tree are read as its value, unless the tree is nested more
deeply than the reader reads. -/
theorem ofLexemes?_tree (tree : Tree) :
    ofLexemes? tree.lexemes = within tree.nesting tree.value? := by
  have read := read_treeLexemes tree Reader.start rfl (Nat.zero_le _)
  have finished : ∀ value, (Reader.accept? value Reader.start).bind
      Reader.finish? = some value := fun _ => rfl
  rw [ofLexemes?, read, within_bind, Option.bind_assoc]
  simp only [finished, Option.bind_fun_some]
  rw [Reader.start, List.length_nil, Nat.zero_add]

/-- The characters spell a tree, whatever blanks stand between its lexemes. -/
def Spells (chars : List Char) (tree : Tree) : Prop :=
  lexemes? chars = some tree.lexemes

theorem ofChars?_of_spells {chars : List Char} {tree : Tree}
    (spelled : Spells chars tree) :
    ofChars? chars = within tree.nesting tree.value? := by
  rw [ofChars?, spelled, Option.bind_some, ofLexemes?_tree]

end PalletTypes.Json
