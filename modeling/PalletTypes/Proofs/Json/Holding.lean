import PalletTypes.Json.Reader

/-!
# What the reader holds

A property of values that is kept whenever the reader puts values together
holds of every document that is read.  `IsKept` lists these constructions, and
the reader keeps the property of everything it holds: of the finished parts of
each open container and of the finished document.
-/

namespace PalletTypes.Json

/-- A property of values that is kept when the reader puts values together. -/
structure IsKept (property : Value → Prop) : Prop where
  null : property .null
  bool : ∀ truth, property (.bool truth)
  int : ∀ {number}, isWordInteger number = true → property (.int number)
  float : ∀ {number : Binary64}, number.IsFinite → property (.float number)
  text : ∀ chars, property (.text (Text.ofChars chars))
  list : ∀ {items}, (∀ item ∈ items, property item) → property (.list items)
  emptyMapping : property (.mapping [])
  put : ∀ {entries value} (chars : List Char), property (.mapping entries) →
    property value →
    property (.mapping (Entries.put (Text.ofChars chars) value entries))

theorem isFinite_of_nearest? {decimal : Decimal} {number : Binary64}
    (rounded : decimal.nearest? = some number) : number.IsFinite := by
  unfold Decimal.nearest? Binary64.ofRank? at rounded
  split at rounded
  case isTrue bound =>
    cases rounded
    exact bound
  case isFalse => exact nomatch rounded

/-- The finished parts of an open container have the property. -/
def Frame.Holds (property : Value → Prop) : Frame → Prop
  | .listStart => True
  | .listItem items => ∀ item ∈ items, property item
  | .listRest items => ∀ item ∈ items, property item
  | .mappingStart => True
  | .mappingKey entries => property (.mapping entries)
  | .mappingColon entries key =>
      property (.mapping entries) ∧ ∃ chars, key = Text.ofChars chars
  | .mappingValue entries key =>
      property (.mapping entries) ∧ ∃ chars, key = Text.ofChars chars
  | .mappingRest entries => property (.mapping entries)

/-- Everything that the reader holds has the property. -/
structure Reader.Holds (property : Value → Prop) (reader : Reader) : Prop where
  frames : ∀ frame ∈ reader.frames, frame.Holds property
  document : ∀ value, reader.document = some value → property value

section

variable {property : Value → Prop}

theorem holds_plain {lexeme : Lexeme} {value : Value}
    (kept : IsKept property) (read : plainValue? lexeme = some value) :
    property value := by
  cases lexeme with
  | mark symbol => exact nomatch read
  | quoted raw => exact nomatch read
  | number chars =>
      obtain ⟨numeral, _, valued⟩ := Option.bind_eq_some_iff.mp read
      unfold numeralValue? at valued
      split at valued
      case isTrue whole =>
        cases valued
        rw [Bool.and_eq_true] at whole
        exact kept.int whole.2
      case isFalse =>
        obtain ⟨number, rounded, rfl⟩ := Option.map_eq_some_iff.mp valued
        exact kept.float (isFinite_of_nearest? rounded)
  | word letters =>
      simp only [plainValue?, wordValue?] at read
      repeat' split at read
      all_goals cases read
      · exact kept.null
      · exact kept.bool true
      · exact kept.bool false

namespace Frame

variable {frame next : Frame}

theorem holds_accept? {value : Value} (kept : IsKept property)
    (parts : frame.Holds property) (holds : property value)
    (accepted : frame.accept? value = some next) : next.Holds property := by
  cases frame <;> simp only [accept?, Option.some.injEq, reduceCtorEq]
    at accepted
  case listStart =>
    subst next
    simpa [Holds] using holds
  case listItem items =>
    subst next
    exact List.forall_mem_cons.mpr ⟨holds, parts⟩
  case mappingValue entries key =>
    subst next
    obtain ⟨entriesHold, chars, rfl⟩ := parts
    exact kept.put chars entriesHold holds

theorem holds_acceptKey? {chars : List Char} (kept : IsKept property)
    (parts : frame.Holds property)
    (accepted : frame.acceptKey? (Text.ofChars chars) = some next) :
    next.Holds property := by
  cases frame <;> simp only [acceptKey?, Option.some.injEq, reduceCtorEq]
    at accepted
  case mappingStart =>
    subst next
    exact ⟨kept.emptyMapping, chars, rfl⟩
  case mappingKey entries =>
    subst next
    exact ⟨parts, chars, rfl⟩

theorem holds_separate? {mark : Mark} (parts : frame.Holds property)
    (separated : frame.separate? mark = some next) : next.Holds property := by
  unfold separate? at separated
  split at separated <;> cases separated <;> exact parts

theorem holds_close? {mark : Mark} {value : Value} (kept : IsKept property)
    (parts : frame.Holds property)
    (closed : frame.close? mark = some value) : property value := by
  unfold close? at closed
  split at closed <;> cases closed
  · exact kept.list fun item member => nomatch member
  · apply kept.list
    intro item member
    exact parts item (List.mem_reverse.mp member)
  · exact kept.emptyMapping
  · exact parts

end Frame

namespace Reader

/-- What a reader holds is what its innermost container and the others
hold. -/
theorem holds_cons_iff {frame : Frame} {frames : List Frame}
    {document : Option Value} :
    Holds property ⟨frame :: frames, document⟩ ↔
      frame.Holds property ∧ Holds property ⟨frames, document⟩ := by
  constructor
  · intro held
    have parts := List.forall_mem_cons.mp held.frames
    exact ⟨parts.1, parts.2, held.document⟩
  · intro parts
    constructor
    · exact List.forall_mem_cons.mpr ⟨parts.1, parts.2.frames⟩
    · exact parts.2.document

variable {reader next : Reader}

theorem holds_accept? {value : Value} (kept : IsKept property)
    (held : reader.Holds property) (holds : property value)
    (accepted : reader.accept? value = some next) : next.Holds property := by
  obtain ⟨frames, document⟩ := reader
  cases frames with
  | nil =>
      cases document with
      | some other => exact nomatch accepted
      | none =>
          cases accepted
          constructor
          · exact held.frames
          · intro other finished
            cases finished
            exact holds
  | cons frame frames =>
      rw [holds_cons_iff] at held
      obtain ⟨taken, inFrame, rfl⟩ := Option.map_eq_some_iff.mp accepted
      apply holds_cons_iff.mpr
      exact ⟨Frame.holds_accept? kept held.1 holds inFrame, held.2⟩

theorem holds_open? {frame : Frame} (held : reader.Holds property)
    (empty : frame.Holds property)
    (opened : reader.open? frame = some next) : next.Holds property := by
  unfold open? at opened
  split at opened
  · cases opened
    apply holds_cons_iff.mpr
    exact ⟨empty, held⟩
  · exact nomatch opened

/-- A mark that opens nothing closes or separates the innermost container. -/
theorem holds_takeMark? {mark : Mark} (kept : IsKept property)
    (held : reader.Holds property)
    (taken : reader.takeMark? mark = some next) : next.Holds property := by
  obtain ⟨frames, document⟩ := reader
  unfold takeMark? at taken
  split at taken
  · exact holds_open? held (show Frame.Holds property .listStart from trivial)
      taken
  · exact holds_open? held
      (show Frame.Holds property .mappingStart from trivial) taken
  · cases frames with
    | nil => exact nomatch taken
    | cons frame frames =>
        rw [holds_cons_iff] at held
        simp only at taken
        split at taken
        case h_1 value closed =>
          exact holds_accept? kept held.2
            (Frame.holds_close? kept held.1 closed) taken
        case h_2 =>
          obtain ⟨separated, inFrame, rfl⟩ := Option.map_eq_some_iff.mp taken
          apply holds_cons_iff.mpr
          exact ⟨Frame.holds_separate? held.1 inFrame, held.2⟩

theorem holds_takeText? {chars : List Char} (kept : IsKept property)
    (held : reader.Holds property)
    (taken : reader.takeText? (Text.ofChars chars) = some next) :
    next.Holds property := by
  obtain ⟨frames, document⟩ := reader
  cases frames with
  | nil => exact holds_accept? kept held (kept.text chars) taken
  | cons frame frames =>
      unfold takeText? at taken
      simp only at taken
      split at taken
      case h_1 named inFrame =>
        rw [holds_cons_iff] at held
        cases taken
        apply holds_cons_iff.mpr
        exact ⟨Frame.holds_acceptKey? kept held.1 inFrame, held.2⟩
      case h_2 => exact holds_accept? kept held (kept.text chars) taken

/-- A step adds nothing without the property. -/
theorem holds_step {lexeme : Lexeme} (kept : IsKept property)
    (held : reader.Holds property)
    (taken : reader.step lexeme = some next) : next.Holds property := by
  cases lexeme with
  | mark mark => exact holds_takeMark? kept held taken
  | quoted raw =>
      obtain ⟨chars, _, taken⟩ := Option.bind_eq_some_iff.mp taken
      exact holds_takeText? kept held taken
  | number chars =>
      obtain ⟨value, read, taken⟩ := Option.bind_eq_some_iff.mp taken
      exact holds_accept? kept held (holds_plain kept read) taken
  | word letters =>
      obtain ⟨value, read, taken⟩ := Option.bind_eq_some_iff.mp taken
      exact holds_accept? kept held (holds_plain kept read) taken

theorem holds_run {lexemes : List Lexeme} (kept : IsKept property)
    (held : reader.Holds property)
    (run : lexemes.foldlM Reader.step reader = some next) :
    next.Holds property := by
  induction lexemes generalizing reader with
  | nil =>
      cases run
      exact held
  | cons lexeme lexemes ih =>
      rw [List.foldlM_cons] at run
      obtain ⟨middle, taken, run⟩ := Option.bind_eq_some_iff.mp run
      exact ih (holds_step kept held taken) run

end Reader

/-- A document that is read has every property that the reader keeps. -/
theorem holds_ofBytes? {bytes : ByteArray} {value : Value}
    (kept : IsKept property) (read : ofBytes? bytes = some value) :
    property value := by
  obtain ⟨string, _, read⟩ := Option.bind_eq_some_iff.mp read
  obtain ⟨lexemes, _, read⟩ := Option.bind_eq_some_iff.mp read
  obtain ⟨⟨frames, document⟩, run, finished⟩ :=
    Option.bind_eq_some_iff.mp read
  have held : Reader.start.Holds property :=
    ⟨by simp [Reader.start], by simp [Reader.start]⟩
  cases frames with
  | nil => exact (Reader.holds_run kept held run).document value finished
  | cons frame frames => exact nomatch finished

end

end PalletTypes.Json
