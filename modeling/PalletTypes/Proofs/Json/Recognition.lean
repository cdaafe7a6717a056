import PalletTypes.Proofs.Json.Lexing
import PalletTypes.Proofs.Json.Numerals
import PalletTypes.Proofs.Json.Scanning
import PalletTypes.Proofs.Json.Shape

/-!
# What is read are the documents of the grammar

A derivation is turned into a tree whose lexemes the scanner finds in the
characters, and the lexemes of a tree that are spread over some characters give
a derivation for them.  Between the two stands that the reader reads trees and
nothing else.
-/

namespace PalletTypes.Json

/-! ## From a derivation to a tree -/

section

variable {chars : List Char} {lexemes : List Lexeme}

theorem isBoundary_of_isBlank {char : Char} (blank : isBlank char = true) :
    IsBoundary char := by
  simp only [isBlank, Bool.or_eq_true, beq_iff_eq] at blank
  rcases blank with ((rfl | rfl) | rfl) | rfl <;> decide

theorem scan_blanks (blank : AreBlanks chars) (finished : List Lexeme) :
    chars.foldlM Scanner.step ⟨.between, finished⟩ =
      some ⟨.between, finished⟩ := by
  induction chars with
  | nil => rfl
  | cons char chars ih =>
      obtain ⟨first, others⟩ := List.forall_mem_cons.mp blank
      have stepped : Scanner.step ⟨.between, finished⟩ char =
          some ⟨.between, finished⟩ := enter_blank finished first
      rw [List.foldlM_cons, stepped]
      exact ih others

theorem follows_blanks (blank : AreBlanks chars) : Follows chars [] := by
  cases chars with
  | nil => exact Follows.nil
  | cons char chars =>
      obtain ⟨first, others⟩ := List.forall_mem_cons.mp blank
      intro scanner finished settled
      refine ⟨⟨.between, finished⟩, ?_, rfl⟩
      rw [List.foldlM_cons,
        Scanner.step_of_settled settled (isBoundary_of_isBlank first),
        enter_blank finished first]
      exact scan_blanks others finished

theorem Leads.padded {before after : List Char} (leads : Leads chars lexemes)
    (blankBefore : AreBlanks before) (blankAfter : AreBlanks after) :
    Leads (before ++ chars ++ after) lexemes := by
  have padded : Leads (before ++ chars) lexemes := by
    intro finished
    rw [List.foldlM_append, scan_blanks blankBefore]
    exact leads finished
  have whole := padded.append (follows_blanks blankAfter)
  rwa [List.append_nil] at whole

/-- The scanner takes closed characters into the text that is open. -/
theorem scan_closed {raw : List Char} (closed : Closed raw)
    (done : List Char) (finished : List Lexeme) :
    raw.foldlM Scanner.step ⟨.quoted done, finished⟩ =
      some ⟨.quoted (raw.reverse ++ done), finished⟩ := by
  induction closed generalizing done with
  | nil => rfl
  | plain visible noQuote noEscape _ ih =>
      simp [Scanner.step, visible, noQuote, noEscape, ih]
  | escaped visible _ ih => simp [Scanner.step, visible, ih]

theorem leads_quoted {raw : List Char} (closed : Closed raw) :
    Leads ('"' :: raw ++ ['"']) [.quoted raw] := by
  intro finished
  have opened : Scanner.step ⟨.between, finished⟩ '"' =
      some ⟨.quoted [], finished⟩ := by
    simp [Scanner.step, Scanner.enter, isBlank]
  refine ⟨⟨.between, .quoted raw :: finished⟩, ?_, rfl⟩
  rw [List.cons_append, List.foldlM_cons, opened]
  simp [scan_closed closed, Scanner.step]

/-- Characters between two marks are followed if they are led. -/
theorem leads_between (opening closing : Mark) (leads : Leads chars lexemes) :
    Leads (opening.char :: chars ++ [closing.char])
      (.mark opening :: (lexemes ++ [.mark closing])) := by
  have opened := (separates_mark opening).append leads
  exact (opened.append (separates_mark closing).follows).leads

end

theorem Leaves.eq_ofPairs {pairs entries : List (Text × Value)}
    (left : Leaves pairs entries) : entries = Entries.ofPairs pairs := by
  apply Entries.eq_of_keys_of_get?
  · rw [left.places]
    exact nodup_firstOccurrences _
  · rw [left.places, Entries.keys_ofPairs]
  · intro key
    rw [left.values, Entries.ofPairs, Entries.get?_putAll]
    exact (Option.or_none).symm

theorem leaves_ofPairs (pairs : List (Text × Value)) :
    Leaves pairs (Entries.ofPairs pairs) where
  places := Entries.keys_ofPairs pairs
  values key := by
    rw [Entries.ofPairs, Entries.get?_putAll]
    exact Option.or_none

/-- The tree has the value and the depth, and the scanner finds its lexemes in
the characters. -/
structure Tree.Renders (tree : Tree) (depth : Nat) (chars : List Char)
    (value : Value) : Prop where
  value : tree.value? = some value
  nesting : tree.nesting ≤ depth
  leads : Leads chars tree.lexemes

mutual

/-- The characters of a value have a tree. -/
theorem exists_tree_of_isValue {depth : Nat} {chars : List Char}
    {value : Value} : IsValue depth chars value →
      ∃ tree : Tree, tree.Renders depth chars value
  | .null => ⟨.word nullWord, rfl, Nat.zero_le _, leads_nullWord⟩
  | .true => by
      refine ⟨.word ['t', 'r', 'u', 'e'], rfl, Nat.zero_le _, ?_⟩
      exact fun finished => ⟨⟨.word ['e', 'u', 'r', 't'], finished⟩, rfl, rfl⟩
  | .false => by
      refine ⟨.word ['f', 'a', 'l', 's', 'e'], rfl, Nat.zero_le _, ?_⟩
      exact fun finished =>
        ⟨⟨.word ['e', 's', 'l', 'a', 'f'], finished⟩, rfl, rfl⟩
  | .number numeric => by
      have known := plainValue?_number_eq_some_iff.mpr numeric
      obtain ⟨numeral, read, -⟩ := Option.bind_eq_some_iff.mp known
      exact ⟨.number chars, known, Nat.zero_le _,
        leads_number (Numeral.isNumber_of_ofChars? read)⟩
  | .text standsFor => by
      obtain ⟨closed, resolved⟩ := standsFor_iff.mp standsFor
      refine ⟨.quoted _, ?_, Nat.zero_le _, leads_quoted closed⟩
      rw [Tree.value?, resolved, Option.map_some]
  | .emptyList blank =>
      ⟨.list [], rfl, Nat.succ_le_succ (Nat.zero_le _),
        leads_between .openList .closeList (follows_blanks blank).leads⟩
  | .list spelled => by
      obtain ⟨trees, -, known, inside, leads⟩ :=
        exists_trees_of_isItems spelled
      refine ⟨.list trees, ?_, Nat.succ_le_succ inside,
        leads_between .openList .closeList leads⟩
      rw [Tree.value?, known, Option.map_some]
  | .emptyMapping blank =>
      ⟨.mapping [], rfl, Nat.succ_le_succ (Nat.zero_le _),
        leads_between .openMapping .closeMapping (follows_blanks blank).leads⟩
  | .mapping spelled left => by
      obtain ⟨entries, -, known, inside, leads⟩ :=
        exists_entries_of_isMembers spelled
      refine ⟨.mapping entries, ?_, Nat.succ_le_succ inside,
        leads_between .openMapping .closeMapping leads⟩
      rw [Tree.value?, known, Option.map_some, left.eq_ofPairs]

theorem exists_tree_of_isItem {depth : Nat} {chars : List Char}
    {value : Value} : IsItem depth chars value →
      ∃ tree : Tree, tree.Renders depth chars value
  | .padded blankBefore spelled blankAfter => by
      obtain ⟨tree, renders⟩ := exists_tree_of_isValue spelled
      exact ⟨tree, renders.value, renders.nesting,
        renders.leads.padded blankBefore blankAfter⟩

theorem exists_trees_of_isItems {depth : Nat} {chars : List Char}
    {items : List Value} : IsItems depth chars items →
      ∃ trees, trees ≠ [] ∧ Tree.itemValues? trees = some items ∧
        Tree.itemsNesting trees ≤ depth ∧
        Leads chars (Tree.itemsLexemes true trees)
  | .last spelled => by
      obtain ⟨tree, renders⟩ := exists_tree_of_isItem spelled
      refine ⟨[tree], List.cons_ne_nil _ _, ?_, ?_, ?_⟩
      · simp [Tree.itemValues?, renders.value]
      · simp [Tree.itemsNesting, renders.nesting]
      · simpa [Tree.itemsLexemes, separatorLexemes] using renders.leads
  | .cons spelled others => by
      obtain ⟨tree, renders⟩ := exists_tree_of_isItem spelled
      obtain ⟨trees, nonempty, known, inside, leads⟩ :=
        exists_trees_of_isItems others
      refine ⟨tree :: trees, List.cons_ne_nil _ _, ?_,
        Nat.max_le.mpr ⟨renders.nesting, inside⟩, ?_⟩
      · simp [Tree.itemValues?, renders.value, known]
      · rw [Tree.itemsLexemes, Tree.itemsLexemes_of_ne_nil nonempty]
        exact renders.leads.append ((separates_mark .comma).append leads)

theorem exists_tree_of_isMember {depth : Nat} {chars : List Char}
    {pair : Text × Value} : IsMember depth chars pair →
      ∃ (raw content : List Char) (tree : Tree),
        unquote? raw = some content ∧ tree.value? = some pair.2 ∧
        (Text.ofChars content, pair.2) = pair ∧ tree.nesting ≤ depth ∧
        Leads chars (.quoted raw :: .mark .colon :: tree.lexemes)
  | .named blankBefore standsFor blankAfter spelled => by
      obtain ⟨closed, resolved⟩ := standsFor_iff.mp standsFor
      obtain ⟨tree, renders⟩ := exists_tree_of_isItem spelled
      refine ⟨_, _, tree, resolved, renders.value, rfl, renders.nesting, ?_⟩
      have name := (leads_quoted closed).padded blankBefore blankAfter
      exact name.append ((separates_mark .colon).append renders.leads)

theorem exists_entries_of_isMembers {depth : Nat} {chars : List Char}
    {pairs : List (Text × Value)} : IsMembers depth chars pairs →
      ∃ entries, entries ≠ [] ∧ Tree.pairs? entries = some pairs ∧
        Tree.entriesNesting entries ≤ depth ∧
        Leads chars (Tree.entriesLexemes true entries)
  | .last spelled => by
      obtain ⟨raw, content, tree, resolved, known, same, inside, leads⟩ :=
        exists_tree_of_isMember spelled
      refine ⟨[(raw, tree)], List.cons_ne_nil _ _, ?_, ?_, ?_⟩
      · simp [Tree.pairs?, resolved, known, same]
      · simp [Tree.entriesNesting, inside]
      · simpa [Tree.entriesLexemes, separatorLexemes] using leads
  | .cons spelled others => by
      obtain ⟨raw, content, tree, resolved, known, same, inside, leads⟩ :=
        exists_tree_of_isMember spelled
      obtain ⟨entries, nonempty, knownRest, insideRest, leadsRest⟩ :=
        exists_entries_of_isMembers others
      refine ⟨(raw, tree) :: entries, List.cons_ne_nil _ _, ?_,
        Nat.max_le.mpr ⟨inside, insideRest⟩, ?_⟩
      · simp [Tree.pairs?, resolved, known, knownRest, same]
      · rw [Tree.entriesLexemes, Tree.entriesLexemes_of_ne_nil nonempty]
        exact leads.append ((separates_mark .comma).append leadsRest)

end

/-! ## From a tree to a derivation -/

section

variable {chars : List Char} {lexemes : List Lexeme}

theorem Spread.exists_of_cons {lexeme : Lexeme}
    (spread : Spread chars (lexeme :: lexemes)) :
    ∃ before rest, AreBlanks before ∧ lexeme.IsSound ∧ Spread rest lexemes ∧
      chars = before ++ lexeme.chars ++ rest := by
  cases spread with
  | cons blank sound others => exact ⟨_, _, blank, sound, others, rfl⟩

theorem Spread.exists_of_mark {mark : Mark}
    (spread : Spread chars (.mark mark :: lexemes)) :
    ∃ before rest, AreBlanks before ∧ Spread rest lexemes ∧
      chars = before ++ mark.char :: rest := by
  obtain ⟨before, rest, blank, -, others, rfl⟩ := spread.exists_of_cons
  exact ⟨before, rest, blank, others, by simp [Lexeme.chars]⟩

/-- The name of a member in front of its colon. -/
theorem Spread.exists_of_name {raw : List Char}
    (spread : Spread chars (.quoted raw :: .mark .colon :: lexemes)) :
    ∃ before after rest, AreBlanks before ∧ Closed raw ∧ AreBlanks after ∧
      Spread rest lexemes ∧
      chars = before ++ ('"' :: raw ++ ['"']) ++ after ++ ':' :: rest := by
  obtain ⟨before, behind, blank, closed, inner, rfl⟩ := spread.exists_of_cons
  obtain ⟨after, rest, blankAfter, others, rfl⟩ := inner.exists_of_mark
  exact ⟨before, after, rest, blank, closed, blankAfter, others,
    by simp [Lexeme.chars, Mark.char]⟩

/-- Behind blanks stands a value, and the lexemes are spread over what comes
behind it. -/
def StartsWith (depth : Nat) (chars : List Char) (value : Value)
    (lexemes : List Lexeme) : Prop :=
  ∃ before text after, AreBlanks before ∧ IsValue depth text value ∧
    Spread after lexemes ∧ chars = before ++ text ++ after

/-- A value in front of a mark is an item. -/
theorem StartsWith.exists_item {depth : Nat} {value : Value} {mark : Mark}
    (starts : StartsWith depth chars value (.mark mark :: lexemes)) :
    ∃ text after, IsItem depth text value ∧ Spread after lexemes ∧
      chars = text ++ mark.char :: after := by
  obtain ⟨before, text, after, blank, spelled, spread, rfl⟩ := starts
  obtain ⟨blanks, rest, blankAfter, others, rfl⟩ := spread.exists_of_mark
  exact ⟨before ++ text ++ blanks, rest, .padded blank spelled blankAfter,
    others, by simp⟩

end

theorem isValue_of_wordValue? {depth : Nat} {letters : List Char}
    {value : Value} (known : wordValue? letters = some value) :
    IsValue depth letters value := by
  unfold wordValue? at known
  repeat' split at known
  case isTrue isNull =>
    cases known
    exact isNull ▸ .null
  case isFalse.isTrue isTrue =>
    cases known
    exact isTrue ▸ .true
  case isFalse.isFalse.isTrue isFalse =>
    cases known
    exact isFalse ▸ .false
  case isFalse.isFalse.isFalse => exact nomatch known

mutual

/-- Characters over which the lexemes of a tree are spread start with its
value. -/
theorem startsWith_of_spread (tree : Tree) {depth : Nat} {chars : List Char}
    {value : Value} {rest : List Lexeme} (known : tree.value? = some value)
    (inside : tree.nesting ≤ depth)
    (spread : Spread chars (tree.lexemes ++ rest)) :
    StartsWith depth chars value rest := by
  cases tree with
  | number digits =>
      obtain ⟨before, after, blank, -, others, rfl⟩ := spread.exists_of_cons
      exact ⟨before, digits, after, blank,
        .number (plainValue?_number_eq_some_iff.mp known), others, rfl⟩
  | word letters =>
      obtain ⟨before, after, blank, -, others, rfl⟩ := spread.exists_of_cons
      exact ⟨before, letters, after, blank, isValue_of_wordValue? known, others,
        rfl⟩
  | quoted raw =>
      obtain ⟨before, after, blank, closed, others, rfl⟩ :=
        spread.exists_of_cons
      obtain ⟨content, resolved, rfl⟩ := Option.map_eq_some_iff.mp known
      exact ⟨before, _, after, blank,
        .text (standsFor_iff.mpr ⟨closed, resolved⟩), others, rfl⟩
  | list items =>
      cases depth with
      | zero => exact absurd inside (Nat.not_succ_le_zero _)
      | succ depth =>
          have parts : Spread chars (.mark .openList ::
              (Tree.itemsLexemes true items ++ .mark .closeList :: rest)) := by
            simpa [Tree.lexemes] using spread
          obtain ⟨before, behind, blank, inner, rfl⟩ := parts.exists_of_mark
          obtain ⟨values, knownItems, rfl⟩ := Option.map_eq_some_iff.mp known
          by_cases empty : items = []
          · subst empty
            obtain ⟨blanks, after, blankInside, others, rfl⟩ :=
              inner.exists_of_mark
            cases knownItems
            exact ⟨before, _, after, blank, .emptyList blankInside, others,
              by simp [Mark.char]⟩
          · obtain ⟨text, after, spelled, others, rfl⟩ :=
              isItems_of_spread items empty knownItems
                (Nat.le_of_succ_le_succ inside) inner
            exact ⟨before, _, after, blank, .list spelled, others,
              by simp [Mark.char]⟩
  | mapping entries =>
      cases depth with
      | zero => exact absurd inside (Nat.not_succ_le_zero _)
      | succ depth =>
          have parts : Spread chars (.mark .openMapping ::
              (Tree.entriesLexemes true entries ++
                .mark .closeMapping :: rest)) := by
            simpa [Tree.lexemes] using spread
          obtain ⟨before, behind, blank, inner, rfl⟩ := parts.exists_of_mark
          obtain ⟨pairs, knownPairs, rfl⟩ := Option.map_eq_some_iff.mp known
          by_cases empty : entries = []
          · subst empty
            obtain ⟨blanks, after, blankInside, others, rfl⟩ :=
              inner.exists_of_mark
            cases knownPairs
            exact ⟨before, _, after, blank, .emptyMapping blankInside, others,
              by simp [Mark.char]⟩
          · obtain ⟨text, after, spelled, others, rfl⟩ :=
              isMembers_of_spread entries empty knownPairs
                (Nat.le_of_succ_le_succ inside) inner
            exact ⟨before, _, after, blank,
              .mapping spelled (leaves_ofPairs pairs), others,
              by simp [Mark.char]⟩

/-- Items that stand in front of a closing mark. -/
theorem isItems_of_spread (items : List Tree) {depth : Nat}
    {chars : List Char} {values : List Value} {mark : Mark}
    {rest : List Lexeme} (nonempty : items ≠ [])
    (known : Tree.itemValues? items = some values)
    (inside : Tree.itemsNesting items ≤ depth)
    (spread : Spread chars
      (Tree.itemsLexemes true items ++ .mark mark :: rest)) :
    ∃ text after, IsItems depth text values ∧ Spread after rest ∧
      chars = text ++ mark.char :: after := by
  cases items with
  | nil => exact absurd rfl nonempty
  | cons item items =>
      obtain ⟨value, knownItem, known⟩ := Option.bind_eq_some_iff.mp known
      obtain ⟨values, knownItems, rfl⟩ := Option.map_eq_some_iff.mp known
      obtain ⟨insideItem, insideItems⟩ := Nat.max_le.mp inside
      by_cases last : items = []
      · subst last
        cases knownItems
        have parts : Spread chars (item.lexemes ++ .mark mark :: rest) := by
          simpa [Tree.itemsLexemes, separatorLexemes] using spread
        obtain ⟨text, after, spelled, others, rfl⟩ :=
          (startsWith_of_spread item knownItem insideItem parts).exists_item
        exact ⟨text, after, .last spelled, others, rfl⟩
      · have parts : Spread chars (item.lexemes ++ .mark .comma ::
            (Tree.itemsLexemes true items ++ .mark mark :: rest)) := by
          rw [Tree.itemsLexemes, Tree.itemsLexemes_of_ne_nil last] at spread
          simpa [separatorLexemes] using spread
        obtain ⟨text, behind, spelled, later, rfl⟩ :=
          (startsWith_of_spread item knownItem insideItem parts).exists_item
        obtain ⟨texts, after, spelledItems, others, rfl⟩ :=
          isItems_of_spread items last knownItems insideItems later
        exact ⟨text ++ ',' :: texts, after, .cons spelled spelledItems, others,
          by simp [Mark.char]⟩

theorem isMembers_of_spread (entries : List (List Char × Tree)) {depth : Nat}
    {chars : List Char} {pairs : List (Text × Value)} {mark : Mark}
    {rest : List Lexeme} (nonempty : entries ≠ [])
    (known : Tree.pairs? entries = some pairs)
    (inside : Tree.entriesNesting entries ≤ depth)
    (spread : Spread chars
      (Tree.entriesLexemes true entries ++ .mark mark :: rest)) :
    ∃ text after, IsMembers depth text pairs ∧ Spread after rest ∧
      chars = text ++ mark.char :: after := by
  cases entries with
  | nil => exact absurd rfl nonempty
  | cons entry entries =>
      obtain ⟨raw, tree⟩ := entry
      obtain ⟨content, resolved, known⟩ := Option.bind_eq_some_iff.mp known
      obtain ⟨value, knownTree, known⟩ := Option.bind_eq_some_iff.mp known
      obtain ⟨pairs, knownPairs, rfl⟩ := Option.map_eq_some_iff.mp known
      obtain ⟨insideTree, insideEntries⟩ := Nat.max_le.mp inside
      by_cases last : entries = []
      · subst last
        cases knownPairs
        have parts : Spread chars (.quoted raw :: .mark .colon ::
            (tree.lexemes ++ .mark mark :: rest)) := by
          simpa [Tree.entriesLexemes, separatorLexemes] using spread
        obtain ⟨before, gap, behind, blank, closed, blankGap, inner, rfl⟩ :=
          parts.exists_of_name
        obtain ⟨text, after, spelled, others, rfl⟩ :=
          (startsWith_of_spread tree knownTree insideTree inner).exists_item
        exact ⟨_, after, .last (.named blank
          (standsFor_iff.mpr ⟨closed, resolved⟩) blankGap spelled), others,
          by simp⟩
      · have parts : Spread chars (.quoted raw :: .mark .colon ::
            (tree.lexemes ++ .mark .comma ::
              (Tree.entriesLexemes true entries ++ .mark mark :: rest))) := by
          rw [Tree.entriesLexemes, Tree.entriesLexemes_of_ne_nil last] at spread
          simpa [separatorLexemes] using spread
        obtain ⟨before, gap, behind, blank, closed, blankGap, inner, rfl⟩ :=
          parts.exists_of_name
        obtain ⟨text, behind, spelled, later, rfl⟩ :=
          (startsWith_of_spread tree knownTree insideTree inner).exists_item
        obtain ⟨texts, after, spelledEntries, others, rfl⟩ :=
          isMembers_of_spread entries last knownPairs insideEntries later
        exact ⟨_, after, .cons (.named blank
          (standsFor_iff.mpr ⟨closed, resolved⟩) blankGap spelled)
          spelledEntries, others, by simp [Mark.char]⟩

end

theorem Leads.spells {chars : List Char} {tree : Tree}
    (leads : Leads chars tree.lexemes) : Spells chars tree := by
  obtain ⟨scanner, scanned, settled⟩ := leads []
  rw [Spells, lexemes?, Scanner.start, scanned, Option.bind_some,
    Scanner.finish_eq, settled]
  simp

/-- The characters that are read as a value are those that spell it. -/
theorem ofChars?_eq_some_iff_isItem {chars : List Char} {value : Value} :
    ofChars? chars = some value ↔ IsItem readingDepth chars value := by
  rw [ofChars?_eq_some_iff]
  constructor
  · rintro ⟨tree, spelled, inside, known⟩
    have spread := spread_of_lexemes? spelled
    rw [← List.append_nil tree.lexemes] at spread
    obtain ⟨before, text, after, blank, isValue, others, rfl⟩ :=
      startsWith_of_spread tree known inside spread
    cases others with
    | nil blankAfter => exact .padded blank isValue blankAfter
  · intro spelled
    obtain ⟨tree, known, inside, leads⟩ := exists_tree_of_isItem spelled
    exact ⟨tree, leads.spells, inside, known⟩

end PalletTypes.Json
