import PalletTypes.Proofs.Json.Tree

/-!
# Only trees are read

The lexemes that a reader has taken are those of the containers that are open,
outermost first, each as far as it has come; when all are closed they are the
lexemes of a tree.  No value is followed here: what a tree is read as is known
already.
-/

namespace PalletTypes.Json

namespace Tree

theorem itemsLexemes_append (isFirst : Bool) (front back : List Tree) :
    itemsLexemes isFirst (front ++ back) =
      itemsLexemes isFirst front ++
        itemsLexemes (isFirst && front.isEmpty) back := by
  induction front generalizing isFirst with
  | nil => simp [itemsLexemes]
  | cons item front ih => simp [itemsLexemes, ih]

theorem entriesLexemes_append (isFirst : Bool)
    (front back : List (List Char × Tree)) :
    entriesLexemes isFirst (front ++ back) =
      entriesLexemes isFirst front ++
        entriesLexemes (isFirst && front.isEmpty) back := by
  induction front generalizing isFirst with
  | nil => simp [entriesLexemes]
  | cons entry front ih =>
      obtain ⟨raw, tree⟩ := entry
      simp [entriesLexemes, ih]

/-- A comma stands in front of items that are not the first ones. -/
theorem itemsLexemes_of_ne_nil {items : List Tree} (nonempty : items ≠ []) :
    itemsLexemes false items = .mark .comma :: itemsLexemes true items := by
  obtain ⟨item, items, rfl⟩ := List.exists_cons_of_ne_nil nonempty
  simp [itemsLexemes, separatorLexemes]

theorem entriesLexemes_of_ne_nil {entries : List (List Char × Tree)}
    (nonempty : entries ≠ []) :
    entriesLexemes false entries =
      .mark .comma :: entriesLexemes true entries := by
  obtain ⟨⟨raw, tree⟩, entries, rfl⟩ := List.exists_cons_of_ne_nil nonempty
  simp [entriesLexemes, separatorLexemes]

/-- The lexemes of a list that is still open. -/
def openList (items : List Tree) : List Lexeme :=
  .mark .openList :: itemsLexemes true items

/-- The lexemes of a mapping that is still open. -/
def openMapping (entries : List (List Char × Tree)) : List Lexeme :=
  .mark .openMapping :: entriesLexemes true entries

/-- An item goes behind the separator that stands in front of it. -/
theorem openList_concat (items : List Tree) (item : Tree) :
    openList (items ++ [item]) =
      openList items ++ separatorLexemes items.isEmpty ++ item.lexemes := by
  simp [openList, itemsLexemes_append, itemsLexemes]

theorem openMapping_concat (entries : List (List Char × Tree))
    (raw : List Char) (tree : Tree) :
    openMapping (entries ++ [(raw, tree)]) =
      openMapping entries ++ separatorLexemes entries.isEmpty ++
        [.quoted raw, .mark .colon] ++ tree.lexemes := by
  simp [openMapping, entriesLexemes_append, entriesLexemes]

end Tree

theorem separatorLexemes_of_ne_nil {α : Type} {list : List α}
    (nonempty : list ≠ []) : separatorLexemes list.isEmpty = [.mark .comma] := by
  rw [List.isEmpty_eq_false_iff.mpr nonempty]
  rfl

open PalletTypes.Json.Tree (openList openMapping openList_concat
  openMapping_concat)

/-- The lexemes of an open container as far as it has come. -/
def Frame.Took (lexemes : List Lexeme) : Frame → Prop
  | .listStart => lexemes = openList []
  | .listItem _ => ∃ items, items ≠ [] ∧
      lexemes = openList items ++ [.mark .comma]
  | .listRest _ => ∃ items, items ≠ [] ∧ lexemes = openList items
  | .mappingStart => lexemes = openMapping []
  | .mappingKey _ => ∃ entries, entries ≠ [] ∧
      lexemes = openMapping entries ++ [.mark .comma]
  | .mappingColon _ _ => ∃ entries raw, lexemes =
      openMapping entries ++ separatorLexemes entries.isEmpty ++ [.quoted raw]
  | .mappingValue _ _ => ∃ entries raw, lexemes =
      openMapping entries ++ separatorLexemes entries.isEmpty ++
        [.quoted raw, .mark .colon]
  | .mappingRest _ => ∃ entries, entries ≠ [] ∧ lexemes = openMapping entries

/-- The lexemes of the open containers, innermost first. -/
inductive TookFrames : List Frame → List Lexeme → Prop where
  | nil : TookFrames [] []
  | cons {frame : Frame} {frames : List Frame} {outer inner : List Lexeme}
      (others : TookFrames frames outer) (innermost : frame.Took inner) :
      TookFrames (frame :: frames) (outer ++ inner)

/-- The lexemes that a reader has taken: a whole tree, or those of the open
containers. -/
inductive Reader.Took : Reader → List Lexeme → Prop where
  | finished {document : Value} (tree : Tree) :
      Took ⟨[], some document⟩ tree.lexemes
  | reading {frames : List Frame} {lexemes : List Lexeme}
      (parts : TookFrames frames lexemes) : Took ⟨frames, none⟩ lexemes

section

variable {lexemes : List Lexeme}

namespace Frame

variable {frame after : Frame}

theorem took_accept? {value : Value} (took : frame.Took lexemes)
    (accepted : frame.accept? value = some after) (tree : Tree) :
    after.Took (lexemes ++ tree.lexemes) := by
  cases frame <;> cases accepted
  case listStart =>
    cases took
    exact ⟨[tree], by simp, by simpa [separatorLexemes] using
      (openList_concat [] tree).symm⟩
  case listItem items =>
    obtain ⟨trees, nonempty, rfl⟩ := took
    rw [← separatorLexemes_of_ne_nil nonempty]
    exact ⟨trees ++ [tree], by simp, (openList_concat trees tree).symm⟩
  case mappingValue entries key =>
    obtain ⟨trees, raw, rfl⟩ := took
    exact ⟨trees ++ [(raw, tree)], by simp,
      (openMapping_concat trees raw tree).symm⟩

theorem took_acceptKey? {key : Text} (took : frame.Took lexemes)
    (accepted : frame.acceptKey? key = some after) (raw : List Char) :
    after.Took (lexemes ++ [.quoted raw]) := by
  cases frame <;> cases accepted
  case mappingStart =>
    cases took
    exact ⟨[], raw, by simp [separatorLexemes]⟩
  case mappingKey entries =>
    obtain ⟨trees, nonempty, rfl⟩ := took
    rw [← separatorLexemes_of_ne_nil nonempty]
    exact ⟨trees, raw, rfl⟩

theorem took_separate? {mark : Mark} (took : frame.Took lexemes)
    (separated : frame.separate? mark = some after) :
    after.Took (lexemes ++ [.mark mark]) := by
  unfold separate? at separated
  split at separated <;> cases separated
  · obtain ⟨trees, nonempty, rfl⟩ := took
    exact ⟨trees, nonempty, rfl⟩
  · obtain ⟨trees, nonempty, rfl⟩ := took
    exact ⟨trees, nonempty, rfl⟩
  · obtain ⟨trees, raw, rfl⟩ := took
    exact ⟨trees, raw, by simp⟩

/-- A container that is closed is a tree. -/
theorem took_close? {mark : Mark} {value : Value} (took : frame.Took lexemes)
    (closed : frame.close? mark = some value) :
    ∃ tree : Tree, tree.lexemes = lexemes ++ [.mark mark] := by
  unfold close? at closed
  split at closed <;> cases closed
  · cases took
    exact ⟨.list [], rfl⟩
  · obtain ⟨trees, -, rfl⟩ := took
    exact ⟨.list trees, rfl⟩
  · cases took
    exact ⟨.mapping [], rfl⟩
  · obtain ⟨trees, -, rfl⟩ := took
    exact ⟨.mapping trees, rfl⟩

end Frame

namespace Reader

variable {frames : List Frame} {document : Option Value} {reader next : Reader}

/-- A reader with an open container has taken what its containers have. -/
theorem took_cons_iff {frame : Frame} :
    Took ⟨frame :: frames, document⟩ lexemes ↔
      document = none ∧ ∃ outer inner, TookFrames frames outer ∧
        frame.Took inner ∧ lexemes = outer ++ inner := by
  constructor
  · intro took
    cases took with
    | reading parts =>
        cases parts with
        | cons others innermost => exact ⟨rfl, _, _, others, innermost, rfl⟩
  · rintro ⟨rfl, outer, inner, others, innermost, rfl⟩
    exact .reading (.cons others innermost)

theorem took_accept? {value : Value} (parts : TookFrames frames lexemes)
    (accepted : accept? value ⟨frames, none⟩ = some next) (tree : Tree) :
    next.Took (lexemes ++ tree.lexemes) := by
  cases parts with
  | nil =>
      cases accepted
      exact .finished tree
  | cons others innermost =>
      obtain ⟨after, inFrame, rfl⟩ := Option.map_eq_some_iff.mp accepted
      rw [List.append_assoc]
      exact .reading (.cons others (Frame.took_accept? innermost inFrame tree))

/-- Nothing is taken once there is a document. -/
theorem reading_of_accept? {value : Value} (took : reader.Took lexemes)
    (accepted : reader.accept? value = some next) (tree : Tree) :
    next.Took (lexemes ++ tree.lexemes) := by
  cases took with
  | finished => exact nomatch accepted
  | reading parts => exact took_accept? parts accepted tree

theorem took_open? {frame : Frame} {opening : List Lexeme}
    (took : reader.Took lexemes) (empty : frame.Took opening)
    (opened : reader.open? frame = some next) :
    next.Took (lexemes ++ opening) := by
  unfold open? at opened
  split at opened
  case isFalse => exact nomatch opened
  case isTrue room =>
    cases opened
    cases took with
    | finished => simp [takesValue] at room
    | reading parts => exact .reading (.cons parts empty)

theorem took_takeMark? {mark : Mark} (took : reader.Took lexemes)
    (taken : reader.takeMark? mark = some next) :
    next.Took (lexemes ++ [.mark mark]) := by
  unfold takeMark? at taken
  split at taken
  · exact took_open? took (show Frame.Took [.mark .openList] .listStart from rfl)
      taken
  · exact took_open? took
      (show Frame.Took [.mark .openMapping] .mappingStart from rfl) taken
  · obtain ⟨frames, document⟩ := reader
    cases frames with
    | nil => exact nomatch taken
    | cons frame frames =>
        obtain ⟨rfl, outer, inner, others, innermost, rfl⟩ :=
          took_cons_iff.mp took
        rw [List.append_assoc]
        simp only at taken
        split at taken
        case h_1 value closed =>
          obtain ⟨tree, whole⟩ := Frame.took_close? innermost closed
          rw [← whole]
          exact took_accept? others taken tree
        case h_2 =>
          obtain ⟨after, separated, rfl⟩ := Option.map_eq_some_iff.mp taken
          exact .reading (.cons others (Frame.took_separate? innermost separated))

theorem took_takeText? {content : Text} (took : reader.Took lexemes)
    (taken : reader.takeText? content = some next) (raw : List Char) :
    next.Took (lexemes ++ [.quoted raw]) := by
  obtain ⟨frames, document⟩ := reader
  cases frames with
  | nil => exact reading_of_accept? took taken (.quoted raw)
  | cons frame frames =>
      unfold takeText? at taken
      simp only at taken
      split at taken
      case h_1 after named =>
        cases taken
        obtain ⟨rfl, outer, inner, others, innermost, rfl⟩ :=
          took_cons_iff.mp took
        rw [List.append_assoc]
        exact .reading (.cons others (Frame.took_acceptKey? innermost named raw))
      case h_2 => exact reading_of_accept? took taken (.quoted raw)

/-- A step takes the lexeme. -/
theorem took_step {lexeme : Lexeme} (took : reader.Took lexemes)
    (taken : reader.step lexeme = some next) :
    next.Took (lexemes ++ [lexeme]) := by
  cases lexeme with
  | mark mark => exact took_takeMark? took taken
  | quoted raw =>
      obtain ⟨chars, _, taken⟩ := Option.bind_eq_some_iff.mp taken
      exact took_takeText? took taken raw
  | number digits =>
      obtain ⟨value, _, taken⟩ := Option.bind_eq_some_iff.mp taken
      exact reading_of_accept? took taken (.number digits)
  | word letters =>
      obtain ⟨value, _, taken⟩ := Option.bind_eq_some_iff.mp taken
      exact reading_of_accept? took taken (.word letters)

theorem took_run {more : List Lexeme} (took : reader.Took lexemes)
    (run : more.foldlM step reader = some next) :
    next.Took (lexemes ++ more) := by
  induction more generalizing reader lexemes with
  | nil =>
      cases run
      rwa [List.append_nil]
  | cons lexeme more ih =>
      rw [List.foldlM_cons] at run
      obtain ⟨middle, taken, run⟩ := Option.bind_eq_some_iff.mp run
      have later := ih (took_step took taken) run
      rwa [List.append_assoc, List.singleton_append] at later

end Reader

/-- Lexemes that are read are those of a tree. -/
theorem exists_tree_of_ofLexemes? {value : Value}
    (read : ofLexemes? lexemes = some value) :
    ∃ tree : Tree, lexemes = tree.lexemes := by
  obtain ⟨last, run, finished⟩ := Option.bind_eq_some_iff.mp read
  have took : last.Took ([] ++ lexemes) :=
    Reader.took_run (.reading .nil) run
  rw [List.nil_append] at took
  cases took with
  | finished tree => exact ⟨tree, rfl⟩
  | reading parts =>
      cases parts with
      | nil => exact nomatch finished
      | cons => exact nomatch finished

/-- A document is read if it spells a tree that has a value and is not nested
too deeply. -/
theorem ofChars?_eq_some_iff {chars : List Char} {value : Value} :
    ofChars? chars = some value ↔
      ∃ tree : Tree, Spells chars tree ∧ tree.nesting ≤ readingDepth ∧
        tree.value? = some value := by
  constructor
  · intro read
    obtain ⟨lexemes, cut, readLexemes⟩ := Option.bind_eq_some_iff.mp read
    obtain ⟨tree, rfl⟩ := exists_tree_of_ofLexemes? readLexemes
    refine ⟨tree, cut, ?_⟩
    rwa [ofLexemes?_tree, within_eq_some_iff] at readLexemes
  · rintro ⟨tree, spelled, inside, known⟩
    rw [ofChars?_of_spells spelled, within_of_le inside, known]

end

end PalletTypes.Json
