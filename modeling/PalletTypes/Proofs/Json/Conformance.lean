import PalletTypes.Proofs.Json.Tree

/-!
# What is written is a document

What is written for a value without a defect is the spelling of a tree that the
reader takes, so it is a document.  This also holds where a mapping repeats a
key: the members that are written have the keys of the entries, in their order
and with their repetitions.
-/

namespace PalletTypes.Json

/-- The lexemes are those of a tree that has a value and nests no more
containers than there is room for. -/
def ReadAsOne (room : Nat) (found : List Lexeme) : Prop :=
  ∃ (tree : Tree) (value : Value), tree.lexemes = found ∧
    tree.value? = some value ∧ tree.nesting ≤ room

mutual

/-- The lexemes of a value without a defect are read as one value. -/
theorem readAsOne_lexemes {depth room : Nat} (value : Value)
    (sound : defect? depth value = none)
    (space : depth + room = writingDepth) : ReadAsOne room (lexemes value) := by
  cases value with
  | null => exact ⟨.word nullWord, .null, rfl, rfl, Nat.zero_le _⟩
  | bool truth =>
      cases truth
      · exact ⟨.word ['f', 'a', 'l', 's', 'e'], .bool false, rfl, rfl,
          Nat.zero_le _⟩
      · exact ⟨.word ['t', 'r', 'u', 'e'], .bool true, rfl, rfl,
          Nat.zero_le _⟩
  | int number =>
      have isWord : isWordInteger number = true := by
        simpa [defect?] using sound
      exact ⟨.number (integerLayout number), .int number, rfl,
        plainValue?_integerLayout isWord, Nat.zero_le _⟩
  | float number =>
      by_cases finite : number.IsFinite
      · exact ⟨.number (Binary64.text numberStyle number), .float number,
          by simp [Tree.lexemes, lexemes, floatLexeme, finite],
          plainValue?_text finite, Nat.zero_le _⟩
      · exact ⟨.word nullWord, .null,
          by simp [Tree.lexemes, lexemes, floatLexeme, finite], rfl,
          Nat.zero_le _⟩
  | text content =>
      obtain ⟨chars, unquoted, -⟩ := unquote?_escaped sound
      exact ⟨.quoted (escaped content), .text (Text.ofChars chars), rfl,
        by rw [Tree.value?, unquoted, Option.map_some], Nat.zero_le _⟩
  | list items =>
      rw [defect?] at sound
      split at sound
      case isFalse => exact nomatch sound
      case isTrue opens =>
        cases room with
        | zero => exact absurd space (Nat.ne_of_lt opens)
        | succ room =>
            have inner : depth + 1 + room = writingDepth := by omega
            obtain ⟨trees, values, same, known, inside⟩ :=
              exists_itemsTrees true items sound inner
            exact ⟨.list trees, .list values,
              by rw [Tree.lexemes, same, lexemes],
              by rw [Tree.value?, known, Option.map_some],
              Nat.succ_le_succ inside⟩
  | mapping entries =>
      rw [defect?] at sound
      split at sound
      case isFalse => exact nomatch sound
      case isTrue opens =>
        cases room with
        | zero => exact absurd space (Nat.ne_of_lt opens)
        | succ room =>
            have inner : depth + 1 + room = writingDepth := by omega
            obtain ⟨trees, pairs, same, known, -, inside⟩ :=
              exists_entriesTrees true entries sound inner
            exact ⟨.mapping trees, .mapping (Entries.ofPairs pairs),
              by rw [Tree.lexemes, same, lexemes],
              by rw [Tree.value?, known, Option.map_some],
              Nat.succ_le_succ inside⟩

theorem exists_itemsTrees {depth room : Nat} (isFirst : Bool)
    (items : List Value) (sound : itemsDefect? depth items = none)
    (space : depth + room = writingDepth) :
    ∃ (trees : List Tree) (values : List Value),
      Tree.itemsLexemes isFirst trees = itemsLexemes isFirst items ∧
        Tree.itemValues? trees = some values ∧
        Tree.itemsNesting trees ≤ room := by
  cases items with
  | nil => exact ⟨[], [], rfl, rfl, Nat.zero_le _⟩
  | cons item items =>
      rw [itemsDefect?, Option.or_eq_none_iff] at sound
      obtain ⟨tree, value, same, known, inside⟩ :=
        readAsOne_lexemes item sound.1 space
      obtain ⟨trees, values, sameRest, knownRest, insideRest⟩ :=
        exists_itemsTrees false items sound.2 space
      refine ⟨tree :: trees, value :: values, ?_, ?_,
        Nat.max_le.mpr ⟨inside, insideRest⟩⟩
      · rw [Tree.itemsLexemes, same, sameRest, itemsLexemes]
      · simp [Tree.itemValues?, known, knownRest]

/-- The members that are written for entries have the keys of these. -/
theorem exists_entriesTrees {depth room : Nat} (isFirst : Bool)
    (entries : List (Text × Value))
    (sound : entriesDefect? depth entries = none)
    (space : depth + room = writingDepth) :
    ∃ (trees : List (List Char × Tree)) (pairs : List (Text × Value)),
      Tree.entriesLexemes isFirst trees = entriesLexemes isFirst entries ∧
        Tree.pairs? trees = some pairs ∧
        Entries.keys pairs = Entries.keys entries ∧
        Tree.entriesNesting trees ≤ room := by
  cases entries with
  | nil => exact ⟨[], [], rfl, rfl, rfl, Nat.zero_le _⟩
  | cons entry entries =>
      obtain ⟨key, value⟩ := entry
      rw [entriesDefect?, Option.or_eq_none_iff, Option.or_eq_none_iff]
        at sound
      obtain ⟨chars, unquoted, sameKey⟩ := unquote?_escaped sound.1
      obtain ⟨tree, read, same, known, inside⟩ :=
        readAsOne_lexemes value sound.2.1 space
      obtain ⟨trees, pairs, sameRest, knownRest, sameKeys, insideRest⟩ :=
        exists_entriesTrees false entries sound.2.2 space
      refine ⟨(escaped key, tree) :: trees, (key, read) :: pairs, ?_, ?_, ?_,
        Nat.max_le.mpr ⟨inside, insideRest⟩⟩
      · rw [Tree.entriesLexemes, same, sameRest, entriesLexemes]
      · simp [Tree.pairs?, unquoted, known, knownRest, sameKey]
      · simp only [Entries.keys, List.map_cons] at sameKeys ⊢
        rw [sameKeys]

end

/-- What is written for a mapping without a defect is a document, and it is a
mapping with the same keys. -/
theorem ofChars?_layout_mapping {entries : List (Text × Value)}
    (sound : defect? 0 (.mapping entries) = none) :
    ∃ pairs, Entries.keys pairs = Entries.keys entries ∧
      ofChars? (layout 0 (.mapping entries)) =
        some (.mapping (Entries.ofPairs pairs)) := by
  have inner : entriesDefect? 1 entries = none := by
    simpa [defect?, writingDepth] using sound
  have space : 1 + 253 = writingDepth := rfl
  obtain ⟨trees, pairs, same, known, sameKeys, inside⟩ :=
    exists_entriesTrees true entries inner space
  have spelled : Spells (layout 0 (.mapping entries)) (.mapping trees) := by
    rw [Spells, lexemes?_layout, Tree.lexemes, same, lexemes]
  have shallow : (Tree.mapping trees).nesting ≤ readingDepth := by
    have limit : (Tree.mapping trees).nesting ≤ 254 := Nat.succ_le_succ inside
    exact Nat.le_trans limit (by decide)
  refine ⟨pairs, sameKeys, ?_⟩
  rw [ofChars?_of_spells spelled, within_of_le shallow, Tree.value?, known,
    Option.map_some]

end PalletTypes.Json
